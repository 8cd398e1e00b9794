import KizunaLink.Lib.Result
import KizunaLink.Source.Client

/-!
# No user-supplied URL reaches a blocked address

The first URL is checked and pinned by `HttpReader.new`, every later one by the
redirect policy.  Both checks read an address literal with one bracket removed
from each end, the connector with all of them removed; on a parsed host the two
readings agree.  The first URL is resolved with its brackets on, so that a bracketed
literal is refused only because the operating system resolves no such text.  A host
that is no literal is connected to a pinned address or to an answer of the installed
resolver, and both were checked.
-/

set_option autoImplicit false

namespace KizunaLink.Source

open KizunaLink.Lib List

variable {url : Url} {host : Host} {raw : String} {port : UInt16} {client : Client}
  {lookup : Lookup} {addresses : List SocketAddr}

theorem dropWhile_of_forall_ne (char : Char) (text : Chars) (absent : ∀ c ∈ text, c ≠ char) :
    text.dropWhile (· == char) = text := by
  cases text with
  | nil => rfl
  | cons head tail =>
    have headNe : head ≠ char := absent head mem_cons_self
    simp [headNe]

theorem trimBrackets_of_bracketless {text : Chars} (plain : Bracketless text) :
    trimBrackets text = text := by
  have noOpen : ∀ c ∈ text, c ≠ '[' := fun c member => (plain c member).1
  have noClose : ∀ c ∈ text.reverse, c ≠ ']' :=
    fun c member => (plain c (mem_reverse.mp member)).2
  simp only [trimBrackets]
  rw [dropWhile_of_forall_ne '[' text noOpen, dropWhile_of_forall_ne ']' _ noClose,
    reverse_reverse]

theorem trimBrackets_bracketed {inner : Chars} (plain : Bracketless inner) :
    trimBrackets ('[' :: (inner ++ [']'])) = inner := by
  have noOpen : ∀ c ∈ inner ++ [']'], c ≠ '[' := by
    intro c member
    rcases mem_append.mp member with inInner | isClose
    · exact (plain c inInner).1
    · rw [mem_singleton.mp isClose]
      decide
  have noClose : ∀ c ∈ inner.reverse, c ≠ ']' :=
    fun c member => (plain c (mem_reverse.mp member)).2
  simp only [trimBrackets, dropWhile_cons, beq_self_eq_true, if_true]
  rw [dropWhile_of_forall_ne '[' _ noOpen]
  simp only [reverse_append, reverse_singleton, singleton_append, dropWhile_cons, beq_self_eq_true,
    if_true]
  rw [dropWhile_of_forall_ne ']' _ noClose, reverse_reverse]

theorem stripBrackets_of_bracketless {text : Chars} (plain : Bracketless text) :
    stripBrackets text = text := by
  cases text with
  | nil => rfl
  | cons head tail =>
    have headNe : head ≠ '[' := (plain head mem_cons_self).1
    simp [stripBrackets, headNe]

theorem stripBrackets_bracketed (inner : Chars) :
    stripBrackets ('[' :: (inner ++ [']'])) = inner := by
  simp [stripBrackets]

theorem Host.trimBrackets_eq_stripBrackets (host : Host) :
    trimBrackets host.text = stripBrackets host.text := by
  rcases host.shape with plain | ⟨inner, plain, shape⟩
  · rw [trimBrackets_of_bracketless plain, stripBrackets_of_bracketless plain]
  · rw [shape, trimBrackets_bracketed plain, stripBrackets_bracketed]

/-! ## What each check guarantees -/

def AllPublic (addresses : List SocketAddr) : Prop :=
  ∀ address ∈ addresses, isBlockedIp address.ip = false

theorem validateResolvedAddresses_public (success : validateResolvedAddresses addresses = .ok ()) :
    AllPublic addresses := by
  intro address member
  cases blocked : isBlockedIp address.ip with
  | false => rfl
  | true =>
    have found : addresses.any (fun address => isBlockedIp address.ip) = true :=
      List.any_eq_true.mpr ⟨address, member, blocked⟩
    have nonempty : addresses.isEmpty = false := by
      cases addresses with
      | nil => cases member
      | cons head tail => rfl
    simp [validateResolvedAddresses, found, nonempty] at success

theorem publicDnsResolve_public {name : Chars}
    (success : publicDnsResolve lookup name = .ok addresses) : AllPublic addresses := by
  obtain ⟨answers, -, success⟩ := bind_ok success
  obtain ⟨_, checked, success⟩ := bind_ok success
  cases success
  exact validateResolvedAddresses_public checked

def LiteralPublic (url : Url) : Prop :=
  ∀ host, url.host = some host →
    ∀ ip, parseIp (trimBrackets host.text) = some ip → isBlockedIp ip = false

/-- The operating system has no answer for a text in brackets, which is no host name. -/
def BracketsUnresolved (lookup : Lookup) : Prop :=
  ∀ inner ips, lookup ('[' :: (inner ++ [']'])) ≠ .ok ips

theorem toSocketAddrs_bracketed (unresolved : BracketsUnresolved lookup) (inner : Chars) :
    toSocketAddrs lookup ('[' :: (inner ++ [']'])) port ≠ .ok addresses := by
  simp only [toSocketAddrs, parseIp_bracket]
  cases answer : lookup ('[' :: (inner ++ [']'])) with
  | error problem => simp [Except.map]
  | ok ips => exact absurd answer (unresolved inner ips)

theorem literal_mem_of_toSocketAddrs {ip : IpAddr} (unresolved : BracketsUnresolved lookup)
    (resolved : toSocketAddrs lookup host.text port = .ok addresses)
    (literal : parseIp (trimBrackets host.text) = some ip) : ⟨ip, port⟩ ∈ addresses := by
  rcases host.shape with plain | ⟨inner, plain, shape⟩
  · rw [trimBrackets_of_bracketless plain] at literal
    simp only [toSocketAddrs, literal, Except.ok.injEq] at resolved
    rw [← resolved]
    exact mem_singleton.mpr rfl
  · rw [shape] at resolved
    exact absurd resolved (toSocketAddrs_bracketed unresolved inner)

theorem validateHttpUrl_ok {parse : String → Except String Url}
    (success : validateHttpUrl parse raw = .ok (url, host, port)) :
    isHttpScheme url.scheme = true ∧ url.host = some host := by
  obtain ⟨parsed, -, success⟩ := bind_ok success
  obtain ⟨scheme, success⟩ := guard_ok success
  cases named : parsed.host with
  | none =>
    rw [named] at success
    cases success
  | some name =>
    cases known : parsed.portOrKnownDefault with
    | none =>
      rw [named, known] at success
      cases success
    | some number =>
      rw [named, known] at success
      cases success
      exact ⟨by simpa using scheme, named⟩

theorem validatePublicUrl_ok {parse : String → Except String Url}
    (unresolved : BracketsUnresolved lookup)
    (success : validatePublicUrl parse lookup raw = .ok (url, host, port, addresses)) :
    isHttpScheme url.scheme = true ∧ AllPublic addresses ∧ LiteralPublic url := by
  obtain ⟨⟨parsed, name, known⟩, checked, success⟩ := bind_ok success
  obtain ⟨scheme, named⟩ := validateHttpUrl_ok checked
  cases resolved : toSocketAddrs lookup name.text known with
  | error problem =>
    simp only [resolved] at success
    cases success
  | ok answers =>
    simp only [resolved] at success
    obtain ⟨-, success⟩ := guard_ok success
    obtain ⟨noneBlocked, ⟨⟩⟩ := guard_ok success
    have allPublic : AllPublic addresses := by
      intro address member
      cases blocked : isBlockedIp address.ip with
      | false => rfl
      | true => exact absurd (List.any_eq_true.mpr ⟨address, member, blocked⟩) noneBlocked
    refine ⟨scheme, allPublic, ?_⟩
    intro other sameHost ip literal
    rw [named] at sameHost
    cases sameHost
    exact allPublic ⟨ip, port⟩ (literal_mem_of_toSocketAddrs unresolved resolved literal)

theorem createClientWithPinning_pinned {proxyUrlParses : String → Bool} {built : Except String Unit}
    {proxy : Option HttpProxyConfig} {host : Chars} {ips : List SocketAddr}
    (success : createClientWithPinning proxyUrlParses built proxy (some host) (some ips) =
      .ok client) :
    client.proxy = none ∧ ∀ entry ∈ client.pinned, isBlockedIp entry.2.ip = false := by
  obtain ⟨unproxied, success⟩ := guard_ok success
  obtain ⟨_, checked, success⟩ := bind_ok success
  obtain ⟨_, -, success⟩ := bind_ok success
  cases success
  have noUrl : proxy.bind (fun config => config.url) = none := by simpa using unproxied
  refine ⟨by simp [noUrl], ?_⟩
  intro entry member
  obtain ⟨address, pinned, rfl⟩ := List.mem_map.mp member
  exact validateResolvedAddresses_public checked address pinned

theorem HttpReader.new_ok {outside : Outside} {proxy : Option HttpProxyConfig} {reader : HttpReader}
    (unresolved : BracketsUnresolved outside.lookup)
    (success : HttpReader.new outside raw proxy = .ok reader) :
    reader.client.proxy = none ∧
      (∀ entry ∈ reader.client.pinned, isBlockedIp entry.2.ip = false) ∧
      LiteralPublic reader.url ∧ isHttpScheme reader.url.scheme = true := by
  obtain ⟨⟨url, host, port, addresses⟩, checked, success⟩ := bind_ok success
  obtain ⟨client, created, success⟩ := bind_ok success
  obtain ⟨_, -, success⟩ := bind_ok success
  cases success
  obtain ⟨noProxy, pins⟩ := createClientWithPinning_pinned created
  obtain ⟨scheme, -, literal⟩ := validatePublicUrl_ok unresolved checked
  exact ⟨noProxy, pins, literal, scheme⟩

/-- A hop that neither leaves http(s) nor drops from https to http. -/
def SafeHop (source target : Url) : Prop :=
  isHttpScheme target.scheme = true ∧ ¬(source.scheme = "https" ∧ target.scheme = "http")

theorem validateRedirectUrl_true {source target : Url}
    (accepted : validateRedirectUrl source target = true) :
    SafeHop source target ∧ LiteralPublic target := by
  cases scheme : isHttpScheme target.scheme <;>
    cases downgrade : (source.scheme == "https" && target.scheme == "http") <;>
    cases named : target.host <;>
    simp [validateRedirectUrl, scheme, downgrade, named] at accepted
  rename_i host
  refine ⟨⟨scheme, by simpa using downgrade⟩, ?_⟩
  intro other sameHost ip literal
  rw [named] at sameHost
  cases sameHost
  rw [host.trimBrackets_eq_stripBrackets] at literal
  simpa [literal] using accepted.2

theorem Client.pinnedAddress_mem {host : Chars} {address : SocketAddr}
    (pinned : client.pinnedAddress host = some address) :
    ∃ entry ∈ client.pinned, entry.2 = address := by
  obtain ⟨entry, found, same⟩ := Option.map_eq_some_iff.mp pinned
  exact ⟨entry, mem_reverse.mp (List.mem_of_find?_eq_some found), same⟩

theorem opens_public (noProxy : client.proxy = none)
    (pins : ∀ entry ∈ client.pinned, isBlockedIp entry.2.ip = false) (literal : LiteralPublic url)
    {ip : IpAddr} (opens : Opens client lookup url ip) : isBlockedIp ip = false := by
  rcases opens with proxied | ⟨host, named, member⟩
  · simp [noProxy] at proxied
  · cases parsed : parseIp (trimBrackets host.text) with
    | some address =>
      simp only [connectAddresses, parsed, mem_singleton] at member
      exact member ▸ literal host named address parsed
    | none =>
      cases pinned : client.pinnedAddress host.text with
      | some address =>
        simp only [connectAddresses, parsed, pinned, mem_singleton] at member
        obtain ⟨entry, inPins, same⟩ := Client.pinnedAddress_mem pinned
        rw [member, ← same]
        exact pins entry inPins
      | none =>
        cases resolved : publicDnsResolve lookup host.text with
        | error problem => simp [connectAddresses, parsed, pinned, resolved] at member
        | ok addresses =>
          simp only [connectAddresses, parsed, pinned, resolved] at member
          obtain ⟨address, answered, rfl⟩ := List.mem_map.mp member
          exact publicDnsResolve_public resolved address answered

theorem redirectPolicyFollows_true {previous : List Url} {current target : Url}
    (follows : redirectPolicyFollows (previous ++ [current]) target = true) :
    previous.length + 1 ≤ 10 ∧ SafeHop current target ∧ LiteralPublic target := by
  simp only [redirectPolicyFollows, List.getLast?_append, List.getLast?_singleton, Option.some_or,
    length_append, length_singleton, Bool.not_or, Bool.not_not, Bool.and_eq_true, Bool.not_eq_true',
    decide_eq_false_iff_not, Nat.not_lt] at follows
  exact ⟨follows.1, validateRedirectUrl_true follows.2⟩

theorem followRedirects_head (previous : List Url) (current : Url) (offers : List Url) :
    ∃ rest, followRedirects previous current offers = current :: rest := by
  cases offers with
  | nil => exact ⟨[], rfl⟩
  | cons target offers =>
    simp only [followRedirects]
    split
    · exact ⟨_, rfl⟩
    · exact ⟨[], rfl⟩

/-- The redirect chain, by induction on the offers: each followed hop was asked
for with all earlier URLs as its history. -/
theorem followRedirects_spec (offers : List Url) (previous : List Url) (current : Url)
    (literal : LiteralPublic current) (room : previous.length ≤ 10) :
    (∀ url ∈ followRedirects previous current offers, LiteralPublic url) ∧
      (followRedirects previous current offers).IsChain SafeHop ∧
      previous.length + (followRedirects previous current offers).length ≤ 11 := by
  induction offers generalizing previous current with
  | nil =>
    refine ⟨?_, List.IsChain.singleton current, ?_⟩
    · intro url member
      exact mem_singleton.mp member ▸ literal
    · simp only [followRedirects, length_singleton]
      omega
  | cons target offers ih =>
    by_cases follows : redirectPolicyFollows (previous ++ [current]) target = true
    · obtain ⟨within, hop, targetLiteral⟩ := redirectPolicyFollows_true follows
      have lengths : (previous ++ [current]).length = previous.length + 1 := by simp
      obtain ⟨literals, chain, bound⟩ :=
        ih (previous ++ [current]) target targetLiteral (by omega)
      simp only [followRedirects, follows, if_true]
      refine ⟨?_, ?_, ?_⟩
      · intro url member
        rcases mem_cons.mp member with rfl | later
        · exact literal
        · exact literals url later
      · obtain ⟨rest, shape⟩ := followRedirects_head (previous ++ [current]) target offers
        rw [shape] at chain ⊢
        exact List.IsChain.cons_cons hop chain
      · rw [length_cons]
        omega
    · simp only [followRedirects, follows]
      refine ⟨?_, List.IsChain.singleton current, ?_⟩
      · intro url member
        exact mem_singleton.mp member ▸ literal
      · simp only [Bool.false_eq_true, if_false, length_singleton]
        omega

/-- Whatever the resolver answers at each lookup, brackets at the first one apart, and
whatever redirects the servers offer: no connection to a blocked address, no hop off http(s) or down
from https, and at most ten hops. -/
theorem httpReader_never_reaches_blocked {outside : Outside} {raw : String}
    {proxy : Option HttpProxyConfig} {reader : HttpReader}
    (unresolved : BracketsUnresolved outside.lookup)
    (success : HttpReader.new outside raw proxy = .ok reader) (offers : List Url) :
    (∀ url ∈ followRedirects [] reader.url offers, ∀ lookup ip,
        Opens reader.client lookup url ip → isBlockedIp ip = false) ∧
      isHttpScheme reader.url.scheme = true ∧
      (followRedirects [] reader.url offers).IsChain SafeHop ∧
      (followRedirects [] reader.url offers).length ≤ 11 := by
  obtain ⟨noProxy, pins, literal, scheme⟩ := HttpReader.new_ok unresolved success
  obtain ⟨literals, chain, bound⟩ :=
    followRedirects_spec offers [] reader.url literal (Nat.zero_le 10)
  refine ⟨?_, scheme, chain, by simpa using bound⟩
  intro url member lookup ip opens
  exact opens_public noProxy pins (literals url member) opens

def publicLiteral : Url where
  scheme := "http"
  host := some ⟨"93.184.216.34".toList, .inl (by simp [Bracketless])⟩
  portOrKnownDefault := some 80

def publicOutside : Outside where
  parse _ := .ok publicLiteral
  lookup _ := .error "no such host"
  proxyUrlParses _ := true
  built := .ok ()
  opened := .ok ()

theorem httpReader_of_public_literal :
    ∃ reader, HttpReader.new publicOutside "http://93.184.216.34/" none = .ok reader ∧
      ∀ url ∈ followRedirects [] reader.url [publicLiteral], ∀ lookup ip,
        Opens reader.client lookup url ip → isBlockedIp ip = false :=
  ⟨_, rfl, (@httpReader_never_reaches_blocked publicOutside "http://93.184.216.34/" none _
    (fun _ _ => nofun) rfl [publicLiteral]).1⟩

end KizunaLink.Source
