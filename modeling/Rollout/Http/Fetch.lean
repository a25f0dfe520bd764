import Mathlib.Data.List.Induction
import Mathlib.Data.List.Infix
import Rollout.Http.Connector
import Rollout.Lib.Dialogue

/-!
# Fetching a URL

The client behind the HTTP tools, against a resolver and a server that answer as they like.

* `NetOp` — what the client does on the network. `fetch` is the client as a program over it: each
  hop resolves the host, picks a safe address and connects to it, and a redirect starts the next
  hop. Reading a URL (`Uri`), TLS and HTTP itself are parameters (`HttpLib`) or operations.
* `urlAfter` — the URL the hop in progress is for, read off what was said so far.
* `fetch_reaches_safe_addresses` — every connection goes to an address the resolver has just given
  for that hop's host, outside the blocked ranges and on the allowlist, and there are at most
  `maxRedirects + 1` of them.
-/

set_option linter.unusedSectionVars false

namespace Rollout.Http

open Rollout.Lib

/-! ## The client -/

/-- The cap on redirects. Source: `rollout-harness-tool/src/http/mod.rs` `MAX_REDIRECTS`. Kind: D -/
def maxRedirects : Nat := 5

/-- Source: `rollout-harness-tool/src/http/mod.rs` `Method`. Kind: D -/
inductive Method
  | get
  | post
deriving DecidableEq

/-- Source: `rollout-harness-tool/src/http/mod.rs` `Method::as_str`. Kind: D -/
def Method.asStr : Method → String
  | .get => "GET"
  | .post => "POST"

/-- Source: `rollout-harness-tool/src/http/mod.rs` `HttpError`. Kind: D -/
inductive HttpError
  | blocked (host : String) (reason : BlockReason)
  | resolve (msg : String)
  | badUrl (msg : String)
  | tooManyRedirects
  | timedOut
  | transport (msg : String)

/-- Source: `rollout-harness-tool/src/http/mod.rs` `HttpError` (`Display`). Kind: D -/
def HttpError.display : HttpError → String
  | .blocked host reason => "blocked SSRF target " ++ host ++ ": " ++ reason.asStr
  | .resolve m => "dns resolution failed: " ++ m
  | .badUrl m => "bad url: " ++ m
  | .tooManyRedirects => "too many redirects (> " ++ toString maxRedirects ++ ")"
  | .timedOut => "request timed out"
  | .transport m => "transport error: " ++ m

/-- Source: `rollout-harness-tool/src/http/mod.rs` `HttpResponse`. Kind: D -/
structure HttpResponse where
  /-- Status code. -/
  status : Nat
  /-- Body. -/
  body : List UInt8

/-- Source: `rollout-harness-tool/src/http/mod.rs` `EgressConfig`. Kind: D -/
structure EgressConfig where
  /-- Allowed addresses; none is no such gate. -/
  allowlist : List IpAddr
  /-- Let loopback through, in tests only. -/
  allowLoopback : Bool

/-- Source: `rollout-harness-tool/src/http/mod.rs` `EgressConfig::block_list_only`. Kind: D -/
def EgressConfig.blockListOnly : EgressConfig := ⟨[], false⟩

/-- The parts of a URL. Source: `rollout-harness-tool/src/http/mod.rs` `one_hop` (`hyper::Uri`).
Kind: D -/
structure Uri where
  /-- Scheme. -/
  scheme : Option String
  /-- Host. -/
  host : Option String
  /-- Port. -/
  port : Option Nat
  /-- Authority. -/
  authority : Option String
  /-- Path and query. -/
  pathAndQuery : Option String

/-- A request. Source: `rollout-harness-tool/src/http/mod.rs` `build_request`. Kind: D -/
structure Request where
  /-- Method. -/
  method : String
  /-- Target. -/
  uri : String
  /-- The `Host` header. -/
  host : String
  /-- The `User-Agent` header. -/
  userAgent : String
  /-- Body. -/
  body : List UInt8
deriving DecidableEq

/-- An address with a port. Source: `rollout-harness-tool/src/http/mod.rs` (`SocketAddr`).
Kind: D -/
structure SocketAddr where
  /-- Address. -/
  ip : IpAddr
  /-- Port. -/
  port : Nat
deriving DecidableEq

/-- What the HTTP and TLS libraries decide, and how an address is written.
Source: `rollout-harness-tool/src/http/mod.rs` (`hyper`, `rustls`). Kind: D -/
class HttpLib where
  /-- An address as text. -/
  showAddr : SocketAddr → String
  /-- Read a URL. -/
  parse : String → Except String Uri
  /-- Whether a host is a TLS server name. -/
  serverName : String → Except String Unit
  /-- Whether a request can be built. -/
  build : Request → Except String Unit

/-- What the client does on the network. Source: `rollout-harness-tool/src/http/mod.rs`. Kind: D -/
inductive NetOp
  /-- Ask the resolver. -/
  | resolve (host : String)
  /-- Open a TCP connection. -/
  | connect (addr : SocketAddr)
  /-- Set up TLS on it. -/
  | tlsConnect (host : String)
  /-- Set up HTTP on it. -/
  | handshake
  /-- Send the request and wait for the head of the response: status and `Location`. -/
  | sendRequest (req : Request)
  /-- Read the body. -/
  | collect
deriving DecidableEq

/-- The answer of an operation the deadline can cut off.
Source: `rollout-harness-tool/src/http/mod.rs` `fetch` (`timeout_at`). Kind: D -/
inductive NetAnswer (α : Type)
  | ok (a : α)
  | failed (msg : String)
  | timedOut

/-- What an operation answers. Source: `rollout-harness-tool/src/http/mod.rs`. Kind: D -/
@[reducible] def NetOp.Resp : NetOp → Type
  | .resolve _ => Except String (List IpAddr)
  | .connect _ => NetAnswer Unit
  | .tlsConnect _ => NetAnswer Unit
  | .handshake => NetAnswer Unit
  | .sendRequest _ => NetAnswer (Nat × Option String)
  | .collect => NetAnswer (List UInt8)

/-- The network. Source: none: infrastructure. Kind: D -/
@[reducible] def netIface : Iface := ⟨NetOp, NetOp.Resp⟩

/-- Programs on the network. Source: none: infrastructure. Kind: D -/
abbrev NetM := Prog netIface HttpError

/-- An answer that fails as transport does, or at the deadline.
Source: `rollout-harness-tool/src/http/mod.rs` `send_http`, `send_https`, `drive`. Kind: D -/
def answered {α : Type} (what : String) : NetAnswer α → Except HttpError α
  | .ok a => .ok a
  | .failed msg => .error (.transport (what ++ msg))
  | .timedOut => .error .timedOut

theorem eq_ok_of_answered {α : Type} {what : String} {answer : NetAnswer α} {a : α}
    (h : answered what answer = .ok a) : answer = .ok a := by
  cases answer with
  | ok b => exact congrArg NetAnswer.ok (Except.ok.inj h)
  | failed msg => cases h
  | timedOut => cases h

theorem eq_ok_of_mapError {ε ε' α : Type} {f : ε → ε'} {x : Except ε α} {a : α}
    (h : x.mapError f = .ok a) : x = .ok a := by
  cases x with
  | ok b => exact congrArg Except.ok (Except.ok.inj h)
  | error e => cases h

section client

variable [HttpLib]

/-- A URL read. Source: `rollout-harness-tool/src/http/mod.rs` `one_hop`. Kind: D -/
def parseUri (url : String) : Except HttpError Uri := (HttpLib.parse url).mapError .badUrl

/-- Source: `rollout-harness-tool/src/http/mod.rs` `build_request`. Kind: D -/
def buildRequest (method : Method) (uri : Uri) (host : String) (body : Option (List UInt8)) :
    Except HttpError Request :=
  let req : Request := ⟨method.asStr, uri.pathAndQuery.getD "/", host, "rollout-harness-tool/0.1",
    body.getD []⟩
  match HttpLib.build req with
  | .ok _ => .ok req
  | .error e => .error (.transport ("build request: " ++ e))

/-- A response to one request. Source: `rollout-harness-tool/src/http/mod.rs` `Hop`. Kind: D -/
structure Hop where
  /-- Status code. -/
  status : Nat
  /-- The `Location` header. -/
  location : Option String
  /-- Body. -/
  body : List UInt8

/-- Source: `rollout-harness-tool/src/http/mod.rs` `drive`. Kind: D -/
def drive (req : Request) : NetM Hop := do
  let sent ← Prog.op (I := netIface) (.sendRequest req)
  let head ← Prog.ofExcept (answered "send: " sent)
  let collected ← Prog.op (I := netIface) .collect
  let body ← Prog.ofExcept (answered "body: " collected)
  return ⟨head.1, head.2, body⟩

/-- Source: `rollout-harness-tool/src/http/mod.rs` `send_http`. Kind: D -/
def sendHttp (method : Method) (uri : Uri) (host : String) (addr : SocketAddr)
    (body : Option (List UInt8)) : NetM Hop := do
  let opened ← Prog.op (I := netIface) (.connect addr)
  Prog.ofExcept (answered ("connect " ++ HttpLib.showAddr addr ++ ": ") opened)
  let shaken ← Prog.op (I := netIface) .handshake
  Prog.ofExcept (answered "handshake: " shaken)
  let req ← Prog.ofExcept (buildRequest method uri host body)
  drive req

/-- Source: `rollout-harness-tool/src/http/mod.rs` `send_https`. Kind: D -/
def sendHttps (method : Method) (uri : Uri) (host : String) (addr : SocketAddr)
    (body : Option (List UInt8)) : NetM Hop := do
  let opened ← Prog.op (I := netIface) (.connect addr)
  Prog.ofExcept (answered ("connect " ++ HttpLib.showAddr addr ++ ": ") opened)
  Prog.ofExcept ((HttpLib.serverName host).mapError fun e =>
    .badUrl ("invalid TLS server name " ++ host ++ ": " ++ e))
  let secured ← Prog.op (I := netIface) (.tlsConnect host)
  Prog.ofExcept (answered "tls handshake: " secured)
  let shaken ← Prog.op (I := netIface) .handshake
  Prog.ofExcept (answered "handshake: " shaken)
  let req ← Prog.ofExcept (buildRequest method uri host body)
  drive req

/-- One request: resolve, filter, pin, connect.
Source: `rollout-harness-tool/src/http/mod.rs` `one_hop`. Kind: D -/
def oneHop (method : Method) (url : String) (body : Option (List UInt8)) (egress : EgressConfig) :
    NetM Hop := do
  let uri ← Prog.ofExcept (parseUri url)
  let scheme := uri.scheme.getD "http"
  if scheme ≠ "http" ∧ scheme ≠ "https" then
    Prog.err (.badUrl ("unsupported scheme: " ++ scheme))
  else
    let host ← Prog.ofExcept (match uri.host with
      | some host => .ok host
      | none => .error (.badUrl "missing host"))
    let port := uri.port.getD (if scheme = "https" then 443 else 80)
    let resolved ← Prog.op (I := netIface) (.resolve host)
    let ips ← Prog.ofExcept (resolved.mapError .resolve)
    if ips = [] then Prog.err (.resolve ("no addresses for " ++ host))
    else
      let pinned ← Prog.ofExcept
        ((pickSafeIp ips egress.allowlist egress.allowLoopback).mapError (.blocked host))
      if scheme = "https" then sendHttps method uri host ⟨pinned, port⟩ body
      else sendHttp method uri host ⟨pinned, port⟩ body

/-- Whether a location has a scheme. Source: `rollout-harness-tool/src/http/mod.rs`
`resolve_redirect` (`contains("://")`). Kind: D -/
def hasScheme (location : String) : Bool := decide ("://".toList <:+: location.toList)

/-- The URL of a redirect. Source: `rollout-harness-tool/src/http/mod.rs` `resolve_redirect`.
Kind: D -/
def resolveRedirect (current location : String) : Except HttpError String := do
  if hasScheme location then return location
  let base ← parseUri current
  let scheme := base.scheme.getD "http"
  match base.authority with
  | none => throw (.badUrl "redirect base missing authority")
  | some authority =>
      if location.startsWith "/" then return scheme ++ "://" ++ authority ++ location
      else return scheme ++ "://" ++ authority ++ "/" ++ location

/-- The location a response redirects to. Source: `rollout-harness-tool/src/http/mod.rs` `fetch`.
Kind: D -/
def redirectOf (status : Nat) (location : Option String) : Option String :=
  if 300 ≤ status ∧ status < 400 then location else none

/-- The loop of `fetch`: how many more redirects are followed, and the URL.
Source: `rollout-harness-tool/src/http/mod.rs` `fetch`. Kind: D -/
def fetchFrom (method : Method) (body : Option (List UInt8)) (egress : EgressConfig) :
    Nat → String → NetM HttpResponse
  | left, current => do
      let resp ← oneHop method current body egress
      match redirectOf resp.status resp.location with
      | none => return ⟨resp.status, resp.body⟩
      | some location =>
          match left with
          | 0 => Prog.err .tooManyRedirects
          | left + 1 => do
              let next ← Prog.ofExcept (resolveRedirect current location)
              fetchFrom method body egress left next

/-- Fetch a URL, following redirects. Source: `rollout-harness-tool/src/http/mod.rs` `fetch`.
Kind: D -/
def fetch (method : Method) (url : String) (body : Option (List UInt8)) (egress : EgressConfig) :
    NetM HttpResponse := fetchFrom method body egress maxRedirects url

/-! ## What was said -/

/-- The URL of the hop in progress and the redirect of the response being read, after one more
answer. Source: `rollout-harness-tool/src/http/mod.rs` `fetch`. Kind: D -/
def hear (st : String × Option String) : Said netIface → String × Option String
  | ⟨.sendRequest _, .ok head⟩ => (st.1, redirectOf head.1 head.2)
  | ⟨.collect, .ok _⟩ => match st.2 with
      | none => st
      | some location => match resolveRedirect st.1 location with
          | .ok next => (next, none)
          | .error _ => st
  | _ => st

/-- The URL the hop in progress is for. Source: `rollout-harness-tool/src/http/mod.rs` `fetch`.
Kind: D -/
def heard (start : String) (said : List (Said netIface)) : String × Option String :=
  said.foldl hear (start, none)

/-- Whether a connection was opened. Source: `rollout-harness-tool/src/http/mod.rs`
(`TcpStream::connect`). Kind: D -/
def isConnect (s : Said netIface) : Bool := match s.op with
  | .connect _ => true
  | _ => false

/-- How many connections were opened. Source: `rollout-harness-tool/src/http/mod.rs`
(`TcpStream::connect`). Kind: D -/
def connections (said : List (Said netIface)) : Nat := said.countP isConnect

/-- The address is one the resolver has just given for the host of the hop in progress, it is in no
blocked range, and on the allowlist if there is one.
Source: `rollout-harness-tool/src/http/mod.rs` `fetch`. Kind: D -/
def SafeTarget (egress : EgressConfig) (start : String) (said : List (Said netIface))
    (addr : SocketAddr) : Prop :=
  ∃ before host ips uri, said = before ++ [⟨.resolve host, .ok ips⟩] ∧
    HttpLib.parse (heard start before).1 = .ok uri ∧ uri.host = some host ∧ addr.ip ∈ ips ∧
    ¬ Blocked addr.ip ∧ (egress.allowlist ≠ [] → addr.ip ∈ egress.allowlist)

/-- What the client may do: a connection is to a safe target, and there is one for the start and one
for each redirect. Source: `rollout-harness-tool/src/http/mod.rs` `fetch`. Kind: D -/
def Permitted (egress : EgressConfig) (start : String) (said : List (Said netIface)) :
    NetOp → Prop
  | .connect addr => SafeTarget egress start said addr ∧ connections said ≤ maxRedirects
  | _ => True

theorem heard_snoc (start : String) (said : List (Said netIface)) (s : Said netIface) :
    heard start (said ++ [s]) = hear (heard start said) s := by
  rw [heard, List.foldl_append]
  rfl

theorem connections_snoc (said : List (Said netIface)) (s : Said netIface) :
    connections (said ++ [s]) = connections said + if isConnect s then 1 else 0 := by
  rw [connections, List.countP_append, List.countP_singleton]
  rfl

/-- A hop that is done: its URL has moved on if it was redirected, and it opened one connection.
Source: `rollout-harness-tool/src/http/mod.rs` `one_hop`. Kind: D -/
def AfterHop (start current : String) (count : Nat) (said : List (Said netIface)) (hop : Hop) : Prop :=
  connections said = count + 1 ∧
    ((redirectOf hop.status hop.location = none → (heard start said).1 = current) ∧
      ∀ location next, redirectOf hop.status hop.location = some location →
        resolveRedirect current location = .ok next → (heard start said).1 = next)

variable {egress : EgressConfig} {start : String}

/-- Source: `rollout-harness-tool/src/http/mod.rs` `drive`. Kind: P -/
theorem drive_guarded {req : Request} {said : List (Said netIface)} {current : String} {count : Nat}
    (hurl : (heard start said).1 = current) (hcount : connections said = count + 1) :
    Prog.Guarded (Permitted egress start) (AfterHop start current count) said (drive req) := by
  refine Prog.Guarded.op_bind trivial fun sent => Prog.Guarded.ofExcept_bind fun head hhead => ?_
  refine Prog.Guarded.op_bind trivial fun collected => Prog.Guarded.ofExcept_bind fun body hbody => ?_
  rw [eq_ok_of_answered hhead, eq_ok_of_answered hbody]
  have hheard : heard start
      (said ++ [⟨.sendRequest req, .ok head⟩] ++ [⟨.collect, .ok body⟩]) =
        hear (current, redirectOf head.1 head.2) ⟨.collect, .ok body⟩ := by
    rw [heard_snoc, heard_snoc, ← hurl]
    rfl
  refine ⟨?_, fun hnone => ?_, fun location next hsome hnext => ?_⟩
  · rw [connections_snoc, connections_snoc, hcount]
    rfl
  · rw [hheard, hnone]
    rfl
  · rw [hheard, hsome]
    simp only [hear, hnext]

theorem handshake_guarded {said : List (Said netIface)} {current : String} {count : Nat}
    {req : Except HttpError Request} (hurl : (heard start said).1 = current)
    (hcount : connections said = count + 1) :
    Prog.Guarded (Permitted egress start) (AfterHop start current count) said (do
      let shaken ← Prog.op (I := netIface) .handshake
      Prog.ofExcept (answered "handshake: " shaken)
      let req ← Prog.ofExcept req
      drive req) := by
  refine Prog.Guarded.op_bind trivial fun shaken => Prog.Guarded.ofExcept_bind fun _ _ => ?_
  refine Prog.Guarded.ofExcept_bind fun req _ => drive_guarded ?_ ?_
  · rw [heard_snoc]
    exact hurl
  · rw [connections_snoc, hcount]
    rfl

/-- Source: `rollout-harness-tool/src/http/mod.rs` `send_http`, `send_https`. Kind: P -/
theorem send_guarded {method : Method} {uri : Uri} {host : String} {addr : SocketAddr}
    {body : Option (List UInt8)} {said : List (Said netIface)} {current : String} {count : Nat}
    (hurl : (heard start said).1 = current) (hcount : connections said = count)
    (hle : count ≤ maxRedirects) (hsafe : SafeTarget egress start said addr) :
    Prog.Guarded (Permitted egress start) (AfterHop start current count) said
      (sendHttp method uri host addr body) ∧
    Prog.Guarded (Permitted egress start) (AfterHop start current count) said
      (sendHttps method uri host addr body) := by
  have hpermitted : Permitted egress start said (.connect addr) := ⟨hsafe, hcount ▸ hle⟩
  have hopened : ∀ r, (heard start (said ++ [⟨.connect addr, r⟩])).1 = current ∧
      connections (said ++ [⟨.connect addr, r⟩]) = count + 1 := by
    intro r
    rw [heard_snoc, connections_snoc, hcount]
    exact ⟨hurl, rfl⟩
  constructor
  · refine Prog.Guarded.op_bind hpermitted fun opened => Prog.Guarded.ofExcept_bind fun _ _ => ?_
    exact handshake_guarded (hopened opened).1 (hopened opened).2
  · refine Prog.Guarded.op_bind hpermitted fun opened => Prog.Guarded.ofExcept_bind fun _ _ => ?_
    refine Prog.Guarded.ofExcept_bind fun _ _ => ?_
    refine Prog.Guarded.op_bind trivial fun secured => Prog.Guarded.ofExcept_bind fun _ _ => ?_
    refine handshake_guarded ?_ ?_
    · rw [heard_snoc]
      exact (hopened opened).1
    · rw [connections_snoc, (hopened opened).2]
      rfl

/-- **One hop connects only to a safe target.** Source: `rollout-harness-tool/src/http/mod.rs`
`one_hop`. Kind: P -/
theorem oneHop_guarded (hloopback : egress.allowLoopback = false) {method : Method}
    {body : Option (List UInt8)} {said : List (Said netIface)} {current : String} {count : Nat}
    (hurl : (heard start said).1 = current) (hcount : connections said = count)
    (hle : count ≤ maxRedirects) :
    Prog.Guarded (Permitted egress start) (AfterHop start current count) said
      (oneHop method current body egress) := by
  refine Prog.Guarded.ofExcept_bind fun uri huri => ?_
  simp only
  split
  · trivial
  · refine Prog.Guarded.ofExcept_bind fun host hhost => ?_
    refine Prog.Guarded.op_bind trivial fun resolved => ?_
    refine Prog.Guarded.ofExcept_bind fun ips hips => ?_
    split
    · trivial
    · refine Prog.Guarded.ofExcept_bind fun pinned hpinned => ?_
      have hresolved := eq_ok_of_mapError hips
      subst hresolved
      have hhost' : uri.host = some host := by
        cases huh : uri.host with
        | none =>
            rw [huh] at hhost
            cases hhost
        | some host' =>
            rw [huh] at hhost
            exact congrArg some (Except.ok.inj hhost)
      have hpick := eq_ok_of_mapError hpinned
      rw [hloopback] at hpick
      obtain ⟨hmem, hblocked, hallowed⟩ := pickSafeIp_eq_ok hpick
      have hparse : HttpLib.parse (heard start said).1 = .ok uri := by
        rw [hurl]
        exact eq_ok_of_mapError huri
      have hsafe : ∀ port, SafeTarget egress start (said ++ [⟨.resolve host, .ok ips⟩]) ⟨pinned, port⟩ :=
        fun port => ⟨said, host, ips, uri, rfl, hparse, hhost', hmem, hblocked, hallowed⟩
      have hurl' : (heard start (said ++ [⟨.resolve host, .ok ips⟩])).1 = current := by
        rw [heard_snoc]
        exact hurl
      have hcount' : connections (said ++ [⟨.resolve host, .ok ips⟩]) = count := by
        rw [connections_snoc, hcount]
        rfl
      split
      · exact (send_guarded hurl' hcount' hle (hsafe _)).2
      · exact (send_guarded hurl' hcount' hle (hsafe _)).1

/-- The loop: what was said before a hop leaves a connection for it and one for each redirect to
come. Source: `rollout-harness-tool/src/http/mod.rs` `fetch`. Kind: P -/
theorem fetchFrom_guarded (hloopback : egress.allowLoopback = false) {method : Method}
    {body : Option (List UInt8)} {left : Nat} {current : String} {said : List (Said netIface)}
    (hurl : (heard start said).1 = current) (hcount : connections said + left = maxRedirects) :
    Prog.Guarded (Permitted egress start) (fun _ _ => True) said
      (fetchFrom method body egress left current) := by
  induction left generalizing current said with
  | zero =>
      rw [fetchFrom]
      refine (oneHop_guarded hloopback hurl rfl (by omega)).bind fun said' resp _ => ?_
      split
      · trivial
      · trivial
  | succ left ih =>
      rw [fetchFrom]
      refine (oneHop_guarded hloopback hurl rfl (by omega)).bind fun said' resp hafter => ?_
      obtain ⟨hcount', hmoved⟩ := hafter
      split
      · trivial
      · next location hlocation =>
        refine Prog.Guarded.ofExcept_bind fun next hnext => ?_
        exact ih (hmoved.2 location next hlocation hnext) (by omega)

/-- Where every connection opened is one of at most `n`, there are at most `n`.
Source: none: infrastructure. Kind: L -/
theorem connections_le {n : Nat} {said : List (Said netIface)}
    (h : ∀ before e after, said = before ++ e :: after → isConnect e = true → connections before < n) :
    connections said ≤ n := by
  induction said using List.reverseRecOn with
  | nil => exact Nat.zero_le n
  | append_singleton said e ih =>
      have hprev := ih fun before e' after hsaid => h before e' (after ++ [e])
        (by rw [hsaid, List.append_assoc]; rfl)
      rw [connections_snoc]
      by_cases he : isConnect e = true
      · have := h said e [] rfl he
        rw [if_pos he]
        omega
      · rw [if_neg he]
        exact hprev

/-- **A fetch reaches safe addresses only.** Whatever the URL, the resolver's answers, the responses
and the redirects: each connection goes to an address the resolver has just given for the host of
that hop, in no blocked range and on the allowlist if there is one, and there are at most
`maxRedirects + 1` connections.
Source: `rollout-harness-tool/src/http/mod.rs` `fetch`, `one_hop`,
`rollout-harness-tool/src/http/connector.rs`. Kind: C -/
theorem fetch_reaches_safe_targets (hloopback : egress.allowLoopback = false) {method : Method}
    {url : String} {body : Option (List UInt8)} {said : List (Said netIface)}
    (hsaid : (fetch method url body egress).Dialogue said) :
    (∀ before addr r after, said = before ++ ⟨.connect addr, r⟩ :: after →
      SafeTarget egress url before addr) ∧ connections said ≤ maxRedirects + 1 := by
  have hguarded : Prog.Guarded (Permitted egress url) (fun _ _ => True) []
      (fetch method url body egress) := fetchFrom_guarded hloopback rfl rfl
  refine ⟨fun before addr r after hsplit => (hguarded.sound hsaid hsplit).1, ?_⟩
  refine connections_le fun before e after hsplit he => ?_
  have hpermitted := hguarded.sound hsaid hsplit
  obtain ⟨op, r⟩ := e
  cases op with
  | connect addr => exact Nat.lt_succ_of_le hpermitted.2
  | _ => cases he

end client

/-- Every text is the host of its URL. Source: none: infrastructure. Kind: D -/
@[reducible] def bareHttp : HttpLib where
  showAddr _ := ""
  parse url := .ok ⟨some "http", some url, none, some url, none⟩
  serverName _ := .ok ()
  build _ := .ok ()

/-- A server that redirects to another host. Source: none: infrastructure. Kind: D -/
def redirected : List (Said netIface) :=
  [⟨.resolve "a", .ok [.v4 (.new 8 8 8 8)]⟩, ⟨.connect ⟨.v4 (.new 8 8 8 8), 80⟩, .ok ()⟩,
    ⟨.handshake, .ok ()⟩, ⟨.sendRequest ⟨"GET", "/", "a", "rollout-harness-tool/0.1", []⟩,
      .ok (302, some "b://")⟩, ⟨.collect, .ok []⟩,
    ⟨.resolve "b://", .ok [.v4 (.new 169 254 169 254), .v4 (.new 8 8 4 4)]⟩,
    ⟨.connect ⟨.v4 (.new 8 8 4 4), 80⟩, .timedOut⟩]

theorem fetch_follows_redirect :
    (∀ before addr r after, redirected = before ++ ⟨.connect addr, r⟩ :: after →
      @SafeTarget bareHttp .blockListOnly "a" before addr) ∧
      connections redirected ≤ maxRedirects + 1 := by
  let _ := bareHttp
  have hsaid : (fetch .get "a" none .blockListOnly).follows redirected = true := by decide +kernel
  exact fetch_reaches_safe_targets rfl (Prog.Dialogue.of_follows hsaid)

end Rollout.Http
