import KizunaLink.Lib.Ip

/-!
# The HTTP client for user-supplied sources

Model of engine/source/client.rs with the URL checks of media/sources/http and
`HttpReader::new`.  The URL parser is a parameter; a parsed host is a text that
is free of brackets or one IPv6 literal in brackets, as the `url` crate writes
it.  A `Lookup` is one answer of the operating system's resolver to any text: it
may differ at every lookup.

Of reqwest the model keeps what decides where connections go: an address
literal is connected to as it is, a pinned host to its pinned address, and any
other host to what the installed resolver returns; the redirect policy is asked
before each hop; a client with a forwarding proxy may connect anywhere.
-/

set_option autoImplicit false

namespace KizunaLink.Source

open KizunaLink.Lib

def isBlockedIpv4 (ip : Ipv4Addr) : Bool :=
  ip.isLoopback || ip.isPrivate || ip.isLinkLocal || ip.isMulticast || ip.isUnspecified ||
    (ip.a == 100 && (ip.b &&& 0xc0) == 64) || ip.isDocumentation ||
    (ip.isPrivate && ip.isUnspecified)

def isBlockedIp : IpAddr → Bool
  | .v4 ip => isBlockedIpv4 ip
  | .v6 ip =>
    match ip.toIpv4Mapped with
    | some mapped => isBlockedIpv4 mapped
    | none =>
      ip.isLoopback || ip.isMulticast || ip.isUnspecified ||
        (ip.firstSegment &&& 0xfe00) == 0xfc00 || (ip.firstSegment &&& 0xffc0) == 0xfe80

def validateResolvedAddresses (addresses : List SocketAddr) : Except String Unit :=
  if addresses.isEmpty then .error "hostname resolved to no addresses"
  else if addresses.any fun address => isBlockedIp address.ip then
    .error "hostname resolved to a private or local address"
  else .ok ()

/-! ## Hosts, URLs and lookups -/

def Bracketless (text : Chars) : Prop := ∀ char ∈ text, char ≠ '[' ∧ char ≠ ']'

structure Host where
  text : Chars
  shape : Bracketless text ∨ ∃ inner, Bracketless inner ∧ text = '[' :: (inner ++ [']'])

structure Url where
  scheme : String
  host : Option Host
  portOrKnownDefault : Option UInt16

abbrev Lookup := Chars → Except String (List IpAddr)

/-- `(host, port).to_socket_addrs()`: a literal stands for itself, any other text
goes to the resolver. -/
def toSocketAddrs (lookup : Lookup) (host : Chars) (port : UInt16) :
    Except String (List SocketAddr) :=
  match parseIp host with
  | some ip => .ok [⟨ip, port⟩]
  | none => (lookup host).map fun ips => ips.map fun ip => ⟨ip, port⟩

/-- The resolver installed in every client. -/
def publicDnsResolve (lookup : Lookup) (name : Chars) : Except String (List SocketAddr) := do
  let addresses ← toSocketAddrs lookup name 0
  validateResolvedAddresses addresses
  pure addresses

def toAsciiLowercase (text : Chars) : Chars := text.map Char.toLower

/-- One bracket off each end, or the text unchanged. -/
def stripBrackets (text : Chars) : Chars :=
  match text with
  | '[' :: rest => if rest.getLast? = some ']' then rest.dropLast else text
  | _ => text

def endsWith (text suffix : Chars) : Bool := suffix.reverse.isPrefixOf text.reverse

def isHttpScheme (scheme : String) : Bool := scheme == "http" || scheme == "https"

def isLocalName (lowerHost : Chars) : Bool :=
  lowerHost == "localhost".toList || endsWith lowerHost ".localhost".toList ||
    endsWith lowerHost ".internal".toList || endsWith lowerHost ".local".toList ||
    lowerHost == "metadata.google.internal".toList

def validateRedirectUrl (source target : Url) : Bool :=
  if !isHttpScheme target.scheme || (source.scheme == "https" && target.scheme == "http") then
    false
  else
    match target.host with
    | none => false
    | some host =>
      if isLocalName (toAsciiLowercase host.text) then false
      else
        match parseIp (stripBrackets host.text) with
        | some ip => !isBlockedIp ip
        | none => true

/-- Whether the redirect policy follows the attempt; `previous` holds every URL
already requested, the current one last. -/
def redirectPolicyFollows (previous : List Url) (target : Url) : Bool :=
  match previous.getLast? with
  | none => false
  | some source => !(decide (10 < previous.length) || !validateRedirectUrl source target)

structure HttpProxyConfig where
  url : Option String

structure Client where
  pinned : List (Chars × SocketAddr)
  proxy : Option String

/-- `proxyUrlParses` and `built` are the answers of reqwest to the proxy URL and
to the finished configuration. -/
def createClientWithPinning (proxyUrlParses : String → Bool) (built : Except String Unit)
    (proxy : Option HttpProxyConfig) (pinnedHost : Option Chars)
    (pinnedIps : Option (List SocketAddr)) : Except String Client := do
  if pinnedHost.isSome && (proxy.bind fun config => config.url).isSome then
    throw "pinned HTTP source cannot use a forwarding proxy"
  match pinnedIps with
  | some ips => validateResolvedAddresses ips
  | none => pure ()
  built
  pure
    { pinned :=
        match pinnedHost, pinnedIps with
        | some host, some ips => ips.map fun addr => (host, addr)
        | _, _ => []
      proxy := (proxy.bind fun config => config.url).filter proxyUrlParses }

def validateHttpUrl (parse : String → Except String Url) (raw : String) :
    Except String (Url × Host × UInt16) := do
  let parsed ← (parse raw).mapError fun problem => "invalid HTTP URL: " ++ problem
  if !isHttpScheme parsed.scheme then
    throw ("unsupported HTTP URL scheme: " ++ parsed.scheme)
  match parsed.host, parsed.portOrKnownDefault with
  | none, _ => throw "HTTP URL has no host"
  | some _, none => throw "HTTP URL has no port"
  | some host, some port => pure (parsed, host, port)

def validatePublicUrl (parse : String → Except String Url) (lookup : Lookup) (raw : String) :
    Except String (Url × Host × UInt16 × List SocketAddr) := do
  let (url, host, port) ← validateHttpUrl parse raw
  match toSocketAddrs lookup host.text port with
  | .error problem =>
    throw ("could not resolve HTTP host " ++ String.ofList host.text ++ ": " ++ problem)
  | .ok addresses =>
    if addresses.isEmpty then
      throw ("HTTP host " ++ String.ofList host.text ++ " resolved to no addresses")
    else if addresses.any fun address => isBlockedIp address.ip then
      throw ("HTTP host " ++ String.ofList host.text ++
        " resolves to a private or local address")
    else pure (url, host, port, addresses)

structure HttpReader where
  client : Client
  url : Url

/-- What `HttpReader::new` meets outside the process: its own lookup, reqwest's
answers, and whether the first request succeeded. -/
structure Outside where
  parse : String → Except String Url
  lookup : Lookup
  proxyUrlParses : String → Bool
  built : Except String Unit
  opened : Except String Unit

def HttpReader.new (outside : Outside) (raw : String) (proxy : Option HttpProxyConfig) :
    Except String HttpReader := do
  let (url, host, _, addresses) ← validatePublicUrl outside.parse outside.lookup raw
  let client ← createClientWithPinning outside.proxyUrlParses outside.built proxy
    (some host.text) (some addresses)
  outside.opened
  pure ⟨client, url⟩

/-- Every bracket off both ends, as the connector trims a URL's host. -/
def trimBrackets (text : Chars) : Chars :=
  ((text.dropWhile (· == '[')).reverse.dropWhile (· == ']')).reverse

/-- A later pin of the same host replaces an earlier one. -/
def Client.pinnedAddress (client : Client) (host : Chars) : Option SocketAddr :=
  (client.pinned.reverse.find? fun entry => entry.1 == host).map Prod.snd

def connectAddresses (client : Client) (lookup : Lookup) (host : Chars) : List IpAddr :=
  match parseIp (trimBrackets host) with
  | some ip => [ip]
  | none =>
    match client.pinnedAddress host with
    | some addr => [addr.ip]
    | none =>
      match publicDnsResolve lookup host with
      | .ok addresses => addresses.map SocketAddr.ip
      | .error _ => []

/-- A request for `url` may open a connection to `ip`. -/
def Opens (client : Client) (lookup : Lookup) (url : Url) (ip : IpAddr) : Prop :=
  client.proxy.isSome = true ∨
    ∃ host, url.host = some host ∧ ip ∈ connectAddresses client lookup host.text

/-- The URLs requested when the servers offer these redirects in turn. -/
def followRedirects (previous : List Url) (current : Url) : List Url → List Url
  | [] => [current]
  | target :: offers =>
    if redirectPolicyFollows (previous ++ [current]) target then
      current :: followRedirects (previous ++ [current]) target offers
    else [current]

end KizunaLink.Source
