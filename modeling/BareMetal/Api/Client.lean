import BareMetal.Api.Kubeconfig
import BareMetal.Net.ServerName
import BareMetal.Time.Timestamp

/-!
# Clients

A client is made for the way to a server that a kubeconfig tells.  No client is made where the way
leads over a proxy, or where what is told about the user, the certificates or the server's name
cannot be used; files and commands are out of reach.  A token has to fit in a header of a request,
and one that does not is a fault that nobody deals with.
-/

namespace BareMetal.Api

/-- Why there is no client. -/
inductive ClientFault where
  /-- The kubeconfig does not lead to a server. -/
  | noServer
  /-- What it tells about the way to the server cannot be used. -/
  | unusable
  /-- A token does not fit in a header. -/
  | unfitToken
  deriving DecidableEq

/-- The message for a fault. -/
def ClientFault.message : ClientFault → String
  | noServer => "no server to connect to"
  | unusable => "no client for the server"
  | unfitToken => "the token does not fit in a header"

/-- Whether a text fits in a header of a request. -/
def fitsHeader (text : String) : Bool :=
  text.toList.all fun c => (0x20 ≤ c.toNat && c.toNat != 0x7f) || c == '\t'

/-- What a client shows with its requests. -/
inductive Credentials where
  /-- Nothing. -/
  | none
  /-- A name and a password. -/
  | login
  /-- A token. -/
  | token (token : String)
  /-- A token that is renewed in time. -/
  | renewed

namespace Provider

/-- What is told to a service under a name.  Of several texts the last one counts. -/
def setting? (provider : Provider) (name : String) : Option String :=
  List.lookup name provider.settings.reverse

/-- Whether an instant is more than a minute behind another. -/
def isAhead (expiry now : Timestamp) : Bool :=
  (Timestamp.ofLocal now.date now.hour now.minute now.second now.nanos (-1)).any fun least =>
    least.isBefore expiry

/-- What a service gives.  Of the services that are known, one gives the token it is told, and the
other one also a token that is valid for some time yet. -/
def credentials? (now : Timestamp) (provider : Provider) : Option Credentials :=
  match provider.name, provider.setting? "id-token" with
  | "oidc", some token | "gcp", some token => some (.token token)
  | "gcp", none => do
      let _ ← provider.setting? "access-token"
      let expiry ← Timestamp.parse? (← provider.setting? "expiry")
      if isAhead expiry now then return .renewed else none
  | _, _ => none

end Provider

namespace User

/-- What a user shows.  A service comes first, then a name with a password, then a token. -/
def credentials? (now : Timestamp) (user : User) : Option Credentials :=
  match user.provider, user.token with
  | some provider, _ => provider.credentials? now
  | none, token =>
      if user.username.isSome && user.password.isSome then some .login
      else
        match token with
        | some token => some (.token token)
        | none => if user.tokenFile.isSome || user.needsCommand then none else some .none

/-- Whether the certificate of a user, if it is told together with its key, is one. -/
def hasFitIdentity (user : User) : Bool :=
  let octets (data : Option String) := data.bind fun text => Text.decodeBase64 text.toList
  match octets user.key, octets user.certificate with
  | some key, some certificate =>
      (Text.PemBlock.allIn? (key ++ Text.encodeChar '\n' ++ certificate)).any
        Certificate.holdIdentity
  | _, _ => true

/-- Whether a user can act as others. -/
def canAct (user : User) : Bool :=
  user.actsAs.all fitsHeader && (user.groups.getD []).all fitsHeader

end User

namespace Kubeconfig.Access

/-- Why no client is made for the way to a server, if none is. -/
def fault? (now : Timestamp) (access : Access) : Option ClientFault :=
  match access.proxy, access.user.credentials? now with
  | some _, _ | none, none => some .unusable
  | none, some credentials =>
      let isFit := match credentials with
        | .token token => fitsHeader token
        | _ => true
      if !isFit then some .unfitToken
      else if access.authorities.all Certificate.isCertificate && access.user.hasFitIdentity &&
          access.serverName.all ServerName.isName && access.user.canAct then none
      else some .unusable

end Kubeconfig.Access

/-- The server that a client is made for, given the kubeconfig if it can be read. -/
def connectTo (now : Timestamp) (config : Option Kubeconfig) : Except ClientFault String :=
  match config.bind Kubeconfig.access? with
  | none => .error .noServer
  | some access =>
      match access.fault? now with
      | some fault => .error fault
      | none => .ok access.server

end BareMetal.Api
