import ShadowNet.Go.Bufio
import ShadowNet.Go.Json.Decode
import ShadowNet.Policy.Orchestrator

/-! # The orchestrator's clients

A request to the orchestrator is a line of JSON under a running number, and the next line of the
server's stream is the response. `stdioProcessClient` reads all its responses through one buffered
reader. `tcpClient` makes a new one at every call, so that what the last read brought beyond a
response is gone. Dialling and writing succeed here and no call times out; how the JSON decoder
words an error is a parameter.
-/

namespace ShadowNet.Orchestrator

open Go Go.Json

/-! ## Requests -/

/-- A `float64` of a request: JSON has no text for the last two kinds. -/
inductive Number where
  | finite (x : Float64)
  | nan
  | inf (neg : Bool)
deriving DecidableEq

/-- `strconv.FormatFloat`. -/
def Number.format : Number → Bytes
  | .finite x => x.format
  | .nan => lit "NaN"
  | .inf neg => if neg then lit "-Inf" else lit "+Inf"

def Number.isFinite : Number → Bool
  | .finite _ => true
  | _ => false

structure NetworkState where
  udpBlocked : Bool := false
  dnsPoisoning : Bool := false
  latencyMS : Int64 := 0
deriving DecidableEq

structure ProfileSnapshot where
  id : GoString
  protocol : GoString
  lastSuccess : Int64 := 0
  failures : Int64 := 0
  cooldown : Bool := false
deriving DecidableEq

structure DecisionHistory where
  recentSwitches : Option (List GoString) := none
  failRate : Number
deriving DecidableEq

structure Constraints where
  maxSwitchRate : Int64
  noUDP : Bool := false
deriving DecidableEq

structure ScoreHint where
  profileID : GoString
  score : Number
deriving DecidableEq

structure AdaptiveInput where
  scores : List ScoreHint := []
  recentFailures : List GoString := []
deriving DecidableEq

/-- A `DecisionRequest` with all it sends. -/
structure DecisionRequest where
  type : GoString
  timestamp : Int64
  network : NetworkState := {}
  profiles : Option (List ProfileSnapshot)
  history : DecisionHistory
  constraints : Constraints
  adaptive : AdaptiveInput := {}
deriving DecidableEq

def intValue (value : Int64) : Value := .num (itoa value.toInt)

def sliceValue (items : Option (List α)) (value : α → Value) : Value :=
  items.elim .null fun items => .arr (items.map value)

/-- A slice tagged `omitempty`. -/
def memberOmitEmpty (name : GoString) (items : List α) (value : α → Value) :
    List (GoString × Value) :=
  if items = [] then [] else [(name, .arr (items.map value))]

def NetworkState.toValue (s : NetworkState) : Value :=
  .obj [(lit "udp_blocked", .bool s.udpBlocked), (lit "dns_poisoning", .bool s.dnsPoisoning),
    (lit "latency_ms", intValue s.latencyMS)]

def ProfileSnapshot.toValue (s : ProfileSnapshot) : Value :=
  .obj [(lit "id", .str s.id), (lit "protocol", .str s.protocol),
    (lit "last_success", intValue s.lastSuccess), (lit "failures", intValue s.failures),
    (lit "cooldown", .bool s.cooldown)]

def DecisionHistory.toValue (h : DecisionHistory) : Value :=
  .obj [(lit "recent_switches", sliceValue h.recentSwitches .str),
    (lit "fail_rate", .num h.failRate.format)]

def Constraints.toValue (c : Constraints) : Value :=
  .obj [(lit "max_switch_rate", intValue c.maxSwitchRate), (lit "no_udp", .bool c.noUDP)]

def ScoreHint.toValue (h : ScoreHint) : Value :=
  .obj [(lit "profile_id", .str h.profileID), (lit "score", .num h.score.format)]

def AdaptiveInput.toValue (a : AdaptiveInput) : Value :=
  .obj (memberOmitEmpty (lit "scores") a.scores ScoreHint.toValue ++
    memberOmitEmpty (lit "recent_failures") a.recentFailures .str)

def DecisionRequest.toValue (req : DecisionRequest) : Value :=
  .obj [(lit "type", .str req.type), (lit "timestamp", intValue req.timestamp),
    (lit "network", req.network.toValue),
    (lit "profiles", sliceValue req.profiles ProfileSnapshot.toValue),
    (lit "history", req.history.toValue), (lit "constraints", req.constraints.toValue),
    (lit "adaptive", req.adaptive.toValue)]

/-- The numbers of a request in the order in which they are written. -/
def DecisionRequest.numbers (req : DecisionRequest) : List Number :=
  req.history.failRate :: req.adaptive.scores.map (·.score)

/-- `json.Marshal` of the `JSONRPCRequest` around a request, which refuses numbers without a text. -/
def marshalRequest (id : UInt64) (req : DecisionRequest) : Except GoString Bytes :=
  match req.numbers.find? (!·.isFinite) with
  | some number => .error (lit "json: unsupported value: " ++ number.format)
  | none => .ok (encode (.obj [(lit "jsonrpc", .str (lit "2.0")), (lit "id", .num (natDigits id.toNat)),
      (lit "method", .str (lit "decide")), (lit "params", req.toValue)]))

/-! ## Responses -/

structure DecisionResponse where
  action : GoString := []
  profileID : GoString := []
  reason : GoString := []
  confidence : Float64 := 0
  fallback : Option (List GoString) := none
deriving DecidableEq

structure JSONRPCError where
  code : Int64 := 0
  message : GoString := []
deriving DecidableEq

structure JSONRPCResponse where
  jsonrpc : GoString := []
  id : UInt64 := 0
  result : DecisionResponse := {}
  error : Option JSONRPCError := none
deriving DecidableEq

def resultCodec : Codec DecisionResponse := .struct
  [ .of (lit "action") (·.action) (fun v r => { r with action := v }) .string,
    .omitEmpty (lit "profile_id") (·.profileID) (fun v r => { r with profileID := v }),
    .of (lit "reason") (·.reason) (fun v r => { r with reason := v }) .string,
    .of (lit "confidence") (·.confidence) (fun v r => { r with confidence := v }) .float,
    .omitIf (·.getD [] = []) (lit "fallback") (·.fallback) (fun v r => { r with fallback := v })
      (.slice .string []) ]

def errorCodec : Codec JSONRPCError := .struct
  [ .of (lit "code") (·.code) (fun v e => { e with code := v }) .int,
    .of (lit "message") (·.message) (fun v e => { e with message := v }) .string ]

def responseCodec : Codec JSONRPCResponse := .struct
  [ .of (lit "jsonrpc") (·.jsonrpc) (fun v r => { r with jsonrpc := v }) .string,
    .of (lit "id") (·.id) (fun v r => { r with id := v }) .uint,
    .of (lit "result") (·.result) (fun v r => { r with result := v }) resultCodec,
    .omitIf (· = none) (lit "error") (·.error) (fun v r => { r with error := v })
      (.pointer errorCodec {}) ]

/-- What a client makes of the line that answers request `id`. -/
def readResponse (jsonError : Bytes → GoString) (id : UInt64) (line : Bytes) :
    Except GoString DecisionResponse :=
  match decodeStrict responseCodec {} line with
  | none => .error (lit "invalid rpc response: " ++ jsonError line)
  | some rpcResp =>
      if rpcResp.jsonrpc ≠ lit "2.0" ∨ rpcResp.id ≠ id then .error (lit "invalid rpc envelope")
      else
        match rpcResp.error with
        | some err => .error (lit "rpc error " ++ itoa err.code.toInt ++ lit ": " ++ err.message)
        | none => .ok rpcResp.result

/-! ## The two clients -/

/-- What both clients keep: the reader of the server's stream, what was written to the server, and
the number of the last request. -/
structure Transport where
  reader : Reader
  written : Bytes := []
  next : UInt64 := 0
deriving DecidableEq

def newline : UInt8 := 0x0A

/-- `readLineWithContext`. -/
def readLine (r : Reader) : Option Bytes × Reader :=
  ((r.readBytes newline).1.map trimSpace, (r.readBytes newline).2)

/-- What both clients do once they are connected. -/
def Transport.exchange (jsonError : Bytes → GoString) (c : Transport) (req : DecisionRequest) :
    Except GoString DecisionResponse × Transport :=
  let next := c.next + 1
  match marshalRequest next req with
  | .error err => (.error err, { c with next })
  | .ok line =>
      let written := c.written ++ (line ++ [newline])
      match readLine c.reader with
      | (none, reader) =>
          (.error (lit "orchestrator unavailable: read: EOF"), { reader, written, next })
      | (some respLine, reader) => (readResponse jsonError next respLine, { reader, written, next })

/-- `stdioProcessClient.Decide`. -/
def StdioProcessClient.decide (jsonError : Bytes → GoString) (c : Transport)
    (req : DecisionRequest) : Except GoString DecisionResponse × Transport :=
  c.exchange jsonError req

/-- `tcpClient.ensureConnected`: every call gets a new reader of the one connection. -/
def TcpClient.ensureConnected (c : Transport) : Transport := { c with reader := c.reader.renew }

/-- `tcpClient.Decide`. -/
def TcpClient.decide (jsonError : Bytes → GoString) (c : Transport) (req : DecisionRequest) :
    Except GoString DecisionResponse × Transport :=
  (ensureConnected c).exchange jsonError req

/-- A client before its first request, over a stream that comes in these reads. -/
def Transport.start (reads : List Bytes) : Transport := { reader := ⟨[], reads⟩ }

/-- What the calls of a client return, one after the other. -/
def answers (decide : Transport → DecisionRequest → Except GoString DecisionResponse × Transport) :
    Transport → List DecisionRequest → List (Except GoString DecisionResponse)
  | _, [] => []
  | c, req :: rest => (decide c req).1 :: answers decide (decide c req).2 rest

variable {jsonError : Bytes → GoString} {stdio tcp : Transport}

/-! ## One call -/

/-- A request that `json.Marshal` takes: its call goes on to wait for a response. -/
def DecisionRequest.marshals (req : DecisionRequest) : Bool := req.numbers.all Number.isFinite

theorem marshalRequest_ok {req : DecisionRequest} (marshals : req.marshals = true) (id : UInt64) :
    ∃ line, marshalRequest id req = .ok line := by
  have finite : req.numbers.find? (!·.isFinite) = none := by
    rw [List.find?_eq_none]
    simpa [DecisionRequest.marshals] using marshals
  rw [marshalRequest, finite]
  exact ⟨_, rfl⟩

theorem marshalRequest_error {req : DecisionRequest} (refused : req.marshals = false)
    (id : UInt64) : ∃ err, marshalRequest id req = .error err := by
  obtain ⟨number, found⟩ : ∃ number, req.numbers.find? (!·.isFinite) = some number := by
    rw [← Option.isSome_iff_exists, List.find?_isSome]
    simpa [DecisionRequest.marshals] using refused
  rw [marshalRequest, found]
  exact ⟨_, rfl⟩

theorem exchange_refused {c : Transport} {req : DecisionRequest} (refused : req.marshals = false) :
    (c.exchange jsonError req).2.reader = c.reader := by
  obtain ⟨err, marshalled⟩ := marshalRequest_error refused (c.next + 1)
  rw [Transport.exchange, marshalled]

theorem exchange_reader {c : Transport} {req : DecisionRequest} (marshals : req.marshals = true) :
    (c.exchange jsonError req).2.reader = (c.reader.readBytes newline).2 := by
  obtain ⟨line, marshalled⟩ := marshalRequest_ok marshals (c.next + 1)
  rw [Transport.exchange, marshalled]
  dsimp only [readLine]
  cases (c.reader.readBytes newline).1 <;> rfl

/-! ## Both clients over one stream -/

/-- The clients have sent the same requests and have the same lines to come. -/
structure Agree (stdio tcp : Transport) : Prop where
  next : stdio.next = tcp.next
  written : stdio.written = tcp.written
  lines : stdio.reader.SameLines newline tcp.reader

theorem Agree.exchange (agree : Agree stdio tcp) (req : DecisionRequest) :
    (stdio.exchange jsonError req).1 = (tcp.exchange jsonError req).1 ∧
      Agree (stdio.exchange jsonError req).2 (tcp.exchange jsonError req).2 := by
  rcases stdio with ⟨reader, written, next⟩
  rcases tcp with ⟨other, written', next'⟩
  obtain ⟨rfl, rfl, lines⟩ := agree
  obtain ⟨read, later⟩ := lines.readBytes
  simp only [Transport.exchange, readLine, read]
  cases marshalRequest (next + 1) req with
  | error err => exact ⟨rfl, rfl, rfl, lines⟩
  | ok line =>
    cases (other.readBytes newline).1 with
    | none => exact ⟨rfl, rfl, rfl, later⟩
    | some respLine => exact ⟨rfl, rfl, rfl, later⟩

theorem Agree.ensureConnected (agree : Agree stdio tcp)
    (keeps : ¬ tcp.reader.LosesLine newline) : Agree stdio (TcpClient.ensureConnected tcp) where
  next := agree.next
  written := agree.written
  lines := agree.lines.trans (Reader.sameLines_renew keeps)

/-- No call of a run starts with a new reader that misses part of a line still to come. -/
def TcpClient.KeepsLines (jsonError : Bytes → GoString) :
    Transport → List DecisionRequest → Prop
  | _, [] => True
  | c, req :: rest =>
      ¬ c.reader.LosesLine newline ∧ KeepsLines jsonError (decide jsonError c req).2 rest

/-- Where no line is missed, the clients return the same. -/
theorem Agree.answers {reqs : List DecisionRequest} (agree : Agree stdio tcp)
    (keeps : TcpClient.KeepsLines jsonError tcp reqs) :
    answers (StdioProcessClient.decide jsonError) stdio reqs =
      answers (TcpClient.decide jsonError) tcp reqs := by
  induction reqs generalizing stdio tcp with
  | nil => rfl
  | cons req rest ih =>
    obtain ⟨first, later⟩ := keeps
    obtain ⟨same, next⟩ := (agree.ensureConnected first).exchange req
    exact congrArg₂ List.cons same (ih next later)

/-- The stdio client's answers do not depend on how the stream is cut into reads. -/
theorem StdioProcessClient.answers_eq {reads piped : List Bytes}
    (same : piped.flatten = reads.flatten) (reqs : List DecisionRequest) :
    answers (decide jsonError) (.start piped) reqs =
      answers (decide jsonError) (.start reads) reqs := by
  have agree : Agree (.start piped) (.start reads) := ⟨rfl, rfl, .inl same⟩
  generalize Transport.start piped = stdio at agree ⊢
  generalize Transport.start reads = other at agree ⊢
  induction reqs generalizing stdio other with
  | nil => rfl
  | cons req rest ih =>
    obtain ⟨same, next⟩ := agree.exchange req
    exact congrArg₂ List.cons same (ih _ _ next)

/-- How many calls before the last one wait for a response. -/
def awaited (reqs : List DecisionRequest) : ℕ := reqs.dropLast.countP (·.marshals)

theorem awaited_cons {reqs : List DecisionRequest} (more : reqs ≠ []) (req : DecisionRequest) :
    awaited (req :: reqs) = awaited reqs + if req.marshals then 1 else 0 := by
  rw [awaited, List.dropLast_cons_of_ne_nil more, List.countP_cons, awaited]

/-- What one call of the TCP client does to the lines that the calls after it wait for. -/
private theorem cutAtLines_decide {c : Transport} {req : DecisionRequest}
    {rest : List DecisionRequest} (more : rest ≠ []) :
    Reader.CutAtLines newline (awaited (req :: rest)) c.reader.reads ↔
      ¬ (TcpClient.decide jsonError c req).2.reader.LosesLine newline ∧
        Reader.CutAtLines newline (awaited rest)
          (TcpClient.decide jsonError c req).2.reader.reads := by
  rw [awaited_cons more]
  by_cases marshals : req.marshals = true
  · rw [if_pos marshals, Reader.cutAtLines_succ, TcpClient.decide, exchange_reader marshals]
    exact Iff.rfl
  · rw [if_neg marshals, TcpClient.decide, exchange_refused (Bool.eq_false_of_not_eq_true marshals)]
    exact (and_iff_right Reader.not_losesLine_renew).symm

/-- What a run keeps is decided by how the stream is cut into reads. -/
theorem keepsLines_iff {c : Transport} {reqs : List DecisionRequest} :
    TcpClient.KeepsLines jsonError c reqs ↔
      (reqs ≠ [] → ¬ c.reader.LosesLine newline) ∧
        Reader.CutAtLines newline (awaited reqs) c.reader.reads := by
  induction reqs generalizing c with
  | nil => exact iff_of_true trivial ⟨fun more => absurd rfl more, Reader.cutAtLines_zero _⟩
  | cons req rest ih =>
    rw [TcpClient.KeepsLines, ih, forall_prop_of_true (List.cons_ne_nil req rest)]
    apply and_congr_right
    intro _
    by_cases more : rest = []
    · subst more
      exact iff_of_true ⟨fun more => absurd rfl more, Reader.cutAtLines_zero _⟩
        (Reader.cutAtLines_zero _)
    · rw [cutAtLines_decide more, forall_prop_of_true more]

/-- Both clients return the same over one stream, however its bytes reach the other one, and none of
its lines is lost between two calls. -/
def TransportIndependent (jsonError : Bytes → GoString) (reqs : List DecisionRequest)
    (reads : List Bytes) : Prop :=
  (∀ piped : List Bytes, piped.flatten = reads.flatten →
    answers (StdioProcessClient.decide jsonError) (.start piped) reqs =
      answers (TcpClient.decide jsonError) (.start reads) reqs) ∧
  TcpClient.KeepsLines jsonError (.start reads) reqs

/-- Answers do not depend on the transport exactly where the reads are cut at the ends of lines. -/
theorem transportIndependent_iff (jsonError : Bytes → GoString) (reqs : List DecisionRequest)
    (reads : List Bytes) :
    TransportIndependent jsonError reqs reads ↔
      Reader.CutAtLines newline (awaited reqs) reads := by
  have kept : TcpClient.KeepsLines jsonError (.start reads) reqs ↔
      Reader.CutAtLines newline (awaited reqs) reads :=
    keepsLines_iff.trans (and_iff_right fun _ => Reader.not_losesLine_renew (r := ⟨[], reads⟩))
  rw [← kept]
  refine ⟨And.right, fun keeps => ⟨fun piped same => Agree.answers ?_ keeps, keeps⟩⟩
  exact ⟨rfl, rfl, .inl same⟩

def plainRequest : DecisionRequest where
  type := lit "decision_request"
  timestamp := 1700000000
  profiles := some [⟨lit "p1", lit "reality", 0, 0, false⟩]
  history := ⟨some [], .finite 0⟩
  constraints := ⟨3, false⟩

def heldLine (id : ℕ) : Bytes :=
  lit "\x7b\"jsonrpc\":\"2.0\",\"id\":" ++ natDigits id ++
    lit ",\"result\":\x7b\"action\":\"hold_current\",\"reason\":\"ok\"\x7d\x7d\n"

/-- The responses to two requests, brought by one read. -/
def bothResponses : Bytes := heldLine 1 ++ heldLine 2

def holdResponse : DecisionResponse := { action := lit "hold_current", reason := lit "ok" }

/-- The second response is lost over TCP, where the second call finds nothing more to read. -/
theorem secondResponse_lost :
    answers (StdioProcessClient.decide fun _ => []) (.start [bothResponses])
        [plainRequest, plainRequest] = [.ok holdResponse, .ok holdResponse] ∧
      answers (TcpClient.decide fun _ => []) (.start [bothResponses])
        [plainRequest, plainRequest] =
          [.ok holdResponse, .error (lit "orchestrator unavailable: read: EOF")] ∧
      ¬ TransportIndependent (fun _ => []) [plainRequest, plainRequest] [bothResponses] := by
  have piped : answers (StdioProcessClient.decide fun _ => []) (.start [bothResponses])
      [plainRequest, plainRequest] = [.ok holdResponse, .ok holdResponse] := by
    decide
  have dialled : answers (TcpClient.decide fun _ => []) (.start [bothResponses])
      [plainRequest, plainRequest] =
        [.ok holdResponse, .error (lit "orchestrator unavailable: read: EOF")] := by
    decide
  refine ⟨piped, dialled, fun independent => ?_⟩
  have same := independent.1 [bothResponses] rfl
  rw [piped, dialled] at same
  cases same

end ShadowNet.Orchestrator
