import SigstoreAttestor.Json
import SigstoreAttestor.Cache
import SigstoreAttestor.Signature
import SigstoreAttestor.Engine
import SigstoreAttestor.Extract
import SigstoreAttestor.Policy
import SigstoreAttestor.Fetch
import SigstoreAttestor.Attest
import SigstoreAttestor.Interleaved
import SigstoreAttestor.EarlierEngine
import SigstoreAttestor.Variants
import SigstoreAttestor.Controller
