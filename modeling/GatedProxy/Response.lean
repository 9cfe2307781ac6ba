import GatedProxy.Text.Basic

namespace GatedProxy

inductive Challenge where
  | required
  | invalidCredentials
  deriving DecidableEq, Repr

namespace Response

def line (text : String) : String := text ++ "\r\n"

def established : String := line "HTTP/1.1 200 Connection Established" ++ line ""

def badRequest : String := line "HTTP/1.1 400 Bad Request" ++ line ""

def reason : Challenge → String
  | .required => "Authentication required."
  | .invalidCredentials => "Invalid credentials."

-- The announced length is the same for both bodies and is the length of neither.
def challengeHead : String :=
  line "HTTP/1.1 407 Proxy Authentication Required" ++
  line "Server: Custom-Enterprise-Proxy/1.0" ++
  line "Proxy-Authenticate: Basic realm=\"Enterprise Pre-Auth Proxy\"" ++
  line "Content-Type: text/html" ++
  line "Content-Length: 97" ++
  line "Connection: close" ++
  line ""

def challengeBody (c : Challenge) : String :=
  "<html><body><h1>407 Proxy Authentication Required</h1><p>" ++ reason c ++ "</p></body></html>"

def challenge (c : Challenge) : String := challengeHead ++ challengeBody c

def bytes (response : String) : Bytes := Text.utf8 response.toList

end Response

end GatedProxy
