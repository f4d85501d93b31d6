import ShadowNet.Go.Json.Close
import ShadowNet.Go.Json.Reads
import ShadowNet.Llm.Gbnf
import ShadowNet.Sing.Generator

/-! # Decisions of a local model

`LocalLlamaCPPClient.ProposeAction` has a llama.cpp server generate a decision: a grammar keeps the
text to JSON of the right shape, a stop sequence ends it, and what the stop sequence took away is
put back before the text is decoded. The prompt is left out, and so is what the decision is used for.
-/

namespace ShadowNet.Llm

open Go Go.Json Gbnf

/-! ## The grammar -/

/-- The rules of the decision grammar. -/
inductive Rule where
  | root | parameters | string | number | boolean | ws
deriving DecidableEq

def Rule.name : Rule → List Char
  | .root => "root".toList
  | .parameters => "parameters".toList
  | .string => "string".toList
  | .number => "number".toList
  | .boolean => "boolean".toList
  | .ws => "ws".toList

def quoted (s : String) : List Char := '"' :: s.toList ++ ['"']

/-- A key in quotes and its value, with white space in front of each token. -/
def member (key : String) (value : Rule) : List (Gbnf Rule) :=
  [.rule .ws, .text (quoted key), .rule .ws, .text [':'], .rule .ws, .rule value]

/-- Members with commas between them, and the brace behind the last. -/
def members : List (String × Rule) → List (Gbnf Rule)
  | [] => [.text ['\x7d']]
  | [last] => member last.1 last.2 ++ [.text ['\x7d']]
  | first :: rest => member first.1 first.2 ++ .text [','] :: members rest

def object (fields : List (String × Rule)) : Gbnf Rule := .seqs (.text ['\x7b'] :: members fields)

def decisionRules : Rule → Gbnf Rule
  | .root =>
      object [("protocol", .string), ("parameters", .parameters), ("rotation_interval_sec", .number),
        ("enable_bt_mesh", .boolean), ("explanation", .string)]
  | .parameters => object [("sni", .string), ("utls", .string), ("port", .number)]
  | .string => .seqs [.text ['"'], .star (.range true [('"', '"')]), .text ['"']]
  | .number => .plus (.range false [('0', '9')])
  | .boolean => .alt (.text "true".toList) (.text "false".toList)
  | .ws => .star (.range false [(' ', ' '), ('\t', '\t'), ('\n', '\n')])

/-- The grammar as it is sent. -/
def jsonGrammar : GoString :=
  lit "\nroot ::= \"\x7b\" ws \"\\\"protocol\\\"\" ws \":\" ws string \",\" ws \"\\\"parameters\\\"\" ws " ++
    lit "\":\" ws parameters \",\" ws \"\\\"rotation_interval_sec\\\"\" ws \":\" ws number \",\" ws " ++
    lit "\"\\\"enable_bt_mesh\\\"\" ws \":\" ws boolean \",\" ws \"\\\"explanation\\\"\" ws \":\" ws " ++
    lit "string \"\x7d\"\nparameters ::= \"\x7b\" ws \"\\\"sni\\\"\" ws \":\" ws string \",\" ws " ++
    lit "\"\\\"utls\\\"\" ws \":\" ws string \",\" ws \"\\\"port\\\"\" ws \":\" ws number \"\x7d\"\n" ++
    lit "string ::= \"\\\"\" [^\"]* \"\\\"\"\nnumber ::= [0-9]+\nboolean ::= \"true\" | \"false\"\n" ++
    lit "ws ::= [ \\t\\n]*\n"

/-- The rules are those of the text. -/
theorem jsonGrammar_rules : jsonGrammar =
    utf8 ('\n' :: [Rule.root, .parameters, .string, .number, .boolean, .ws].flatMap fun rule =>
      rule.name ++ " ::= ".toList ++ (decisionRules rule).print Rule.name ++ ['\n']) := by
  have characters {text : List Char} {rules : List Char} (same : text = rules) :
      text.flatMap String.utf8EncodeChar = utf8 rules := congrArg utf8 same
  rw [jsonGrammar]
  repeat rw [lit_ofList]
  simp only [← List.flatMap_append]
  exact characters (by decide +kernel)

/-! ## The client -/

/-- What `LlamaRequest` says of the text to generate. -/
structure LlamaRequest where
  stop : List GoString
  grammar : GoString

/-- The request of `ProposeAction`. -/
def decisionRequest : LlamaRequest where
  stop := [lit "\x7d"]
  grammar := jsonGrammar

/-- Generation ends at the first stop sequence, which is not returned. -/
def cutAt (stop : List GoString) : Bytes → Bytes
  | [] => []
  | head :: rest =>
      if stop.any (·.isPrefixOf (head :: rest)) then [] else head :: cutAt stop rest

structure LlamaResponse where
  content : GoString := []
deriving DecidableEq

def LlamaResponse.codec : Codec LlamaResponse := .struct
  [.of (lit "content") (·.content) (fun value r => { r with content := value }) .string]

def parametersCodec : Codec DecisionParameters := .struct
  [.of (lit "sni") (·.sni) (fun value p => { p with sni := value }) .string,
    .of (lit "utls") (·.utls) (fun value p => { p with utls := value }) .string,
    .of (lit "port") (·.port) (fun value p => { p with port := value }) .int]

def decisionCodec : Codec LLMDecision := .struct
  [.of (lit "protocol") (·.protocol) (fun value d => { d with protocol := value }) .string,
    .of (lit "parameters") (·.parameters) (fun value d => { d with parameters := value })
      parametersCodec,
    .of (lit "rotation_interval_sec") (·.rotationIntervalSec)
      (fun value d => { d with rotationIntervalSec := value }) .int,
    .of (lit "enable_bt_mesh") (·.enableBTMesh) (fun value d => { d with enableBTMesh := value })
      .bool,
    .of (lit "explanation") (·.explanation) (fun value d => { d with explanation := value }) .string]

def decode (text : Bytes) : Option LLMDecision := unmarshal decisionCodec {} text

/-- `rawOutput`. -/
def LlamaResponse.rawOutput (r : LlamaResponse) : Bytes := r.content ++ lit "\x7d"

/-- The decision that `ProposeAction` takes from the body of the server's response. -/
def decisionOf (respBody : Bytes) : Option LLMDecision :=
  (unmarshal LlamaResponse.codec {} respBody).bind fun llamaResp => decode llamaResp.rawOutput

/-- The response to the request when the model's text is `text`. -/
def LlamaRequest.response (request : LlamaRequest) (text : Bytes) : LlamaResponse :=
  ⟨cutAt request.stop text⟩

/-! ## Sentences -/

theorem members_last (fields : List (String × Rule)) :
    ∃ front, members fields = front ++ [.text ['\x7d']] := by
  induction fields with
  | nil => exact ⟨[], rfl⟩
  | cons field rest ih =>
    cases rest with
    | nil => exact ⟨member field.1 field.2, rfl⟩
    | cons next rest =>
      obtain ⟨front, shape⟩ := ih
      refine ⟨member field.1 field.2 ++ .text [','] :: front, ?_⟩
      change member field.1 field.2 ++ .text [','] :: members (next :: rest) = _
      rw [shape, List.append_assoc, List.cons_append]

section

variable {fields : List (String × Rule)} {s : List Char}

/-- An object ends in a brace, and its parts stand in front of that. -/
theorem derives_object (derived : Derives decisionRules (object fields) s) :
    ∃ front body, members fields = front ++ [.text ['\x7d']] ∧ s = body ++ ['\x7d'] ∧
      Derives decisionRules (seqs (.text ['\x7b'] :: front)) body := by
  obtain ⟨front, shape⟩ := members_last fields
  rw [object, shape, ← List.cons_append] at derived
  obtain ⟨body, last, rfl, inside, brace⟩ := derives_seqs_append.mp derived
  exact ⟨front, body, shape, by rw [derives_text.mp brace], inside⟩

/-- The parameters end in a brace before the decision does. -/
theorem derives_root (derived : Derives decisionRules (.rule .root) s) :
    ∃ front middle, s = front ++ '\x7d' :: middle ++ ['\x7d'] := by
  obtain ⟨front, body, shape, rfl, inside⟩ := derives_object (derives_rule.mp derived)
  have member : .rule .parameters ∈ front := by
    have listed : (.rule .parameters : Gbnf Rule) ∈ front ++ [.text ['\x7d']] := by
      rw [← shape]
      simp [members, Llm.member]
    simpa using listed
  obtain ⟨left, piece, right, rfl, own⟩ := derives_seqs_mem (List.mem_cons_of_mem _ member) inside
  obtain ⟨-, inner, -, rfl, -⟩ := derives_object (derives_rule.mp own)
  exact ⟨left ++ inner, right, by simp⟩

end

/-! ## The cut -/

theorem cutAt_brace (text : Bytes) : cutAt decisionRequest.stop text = text.takeWhile (· ≠ 0x7D) := by
  induction text with
  | nil => rfl
  | cons head rest ih =>
    have stops : decisionRequest.stop.any (·.isPrefixOf (head :: rest)) = (0x7D == head) := by
      change ((0x7D == head && true) || false) = _
      rw [Bool.and_true, Bool.or_false]
    rw [cutAt, stops, ih]
    by_cases brace : head = 0x7D
    · subst brace
      rfl
    · rw [if_neg (by simpa using Ne.symm brace), List.takeWhile_cons_of_pos (by simpa using brace)]

/-- Of two braces the cut is at the first or before it. -/
theorem cut_before (front : Bytes) {tail : Bytes} (again : 0x7D ∈ tail) :
    ∃ rest, front ++ 0x7D :: tail =
        (front ++ 0x7D :: tail).takeWhile (· ≠ 0x7D) ++ 0x7D :: rest ∧ 0x7D ∈ rest := by
  induction front with
  | nil => exact ⟨tail, rfl, again⟩
  | cons head front ih =>
    by_cases brace : head = 0x7D
    · subst brace
      exact ⟨front ++ 0x7D :: tail, rfl, by simp⟩
    · obtain ⟨rest, shape, member⟩ := ih
      refine ⟨rest, ?_, member⟩
      rw [List.cons_append, List.takeWhile_cons_of_pos (by simpa using brace), List.cons_append,
        ← shape]

/-- No decision survives the cut: the brace that is put back is not the last one. -/
theorem decode_rawOutput {s : List Char} (derived : Derives decisionRules (.rule .root) s)
    {decision : LLMDecision} (decoded : decode (utf8 s) = some decision) :
    decode (decisionRequest.response (utf8 s)).rawOutput = none := by
  obtain ⟨front, middle, rfl⟩ := derives_root derived
  have written : utf8 (front ++ '\x7d' :: middle ++ ['\x7d']) =
      utf8 front ++ 0x7D :: (utf8 middle ++ [0x7D]) := by
    have brace : utf8 ['\x7d'] = [0x7D] := by decide
    rw [utf8_append, utf8_append, ← List.singleton_append, utf8_append, brace, List.append_assoc,
      List.singleton_append, List.cons_append]
  obtain ⟨rest, shape, again⟩ := @cut_before (utf8 front) (utf8 middle ++ [0x7D]) (by simp)
  obtain ⟨value, parsed, -⟩ := Option.bind_eq_some_iff.mp decoded
  apply Option.eq_none_iff_forall_ne_some.mpr
  intro other survives
  obtain ⟨cut, closed, -⟩ := Option.bind_eq_some_iff.mp survives
  rw [LlamaResponse.rawOutput, LlamaRequest.response, cutAt_brace, written] at closed
  rw [written, shape] at parsed
  have white := white_of_parse_append closed (Option.isSome_iff_exists.mpr ⟨value, parsed⟩) _ again
  exact absurd white (by decide)

/-! ## The response -/

/-- The cut falls between characters. -/
theorem takeWhile_utf8 (s : List Char) :
    (utf8 s).takeWhile (· ≠ 0x7D) = utf8 (s.takeWhile (· ≠ '\x7d')) := by
  induction s with
  | nil => rfl
  | cons c rest ih =>
    rw [← List.singleton_append, utf8_append]
    by_cases brace : c = '\x7d'
    · subst brace
      rfl
    -- no byte of another character is the brace
    have others : ∀ byte ∈ utf8 [c], byte ≠ 0x7D := by
      rintro byte member rfl
      rw [utf8, List.flatMap_singleton] at member
      by_cases ascii : c.toNat < 0x80
      · rw [encodeRune_ascii ascii, List.mem_singleton] at member
        have same := congrArg UInt8.toNat member
        rw [UInt8.toNat_ofNat', Nat.mod_eq_of_lt (by omega)] at same
        exact brace (Char.toNat_inj.mp same.symm)
      · have wide := encodeRune_wide ascii _ member
        exact absurd wide (by decide)
    rw [List.takeWhile_append_of_pos (by simpa using others), ih, List.singleton_append,
      List.takeWhile_cons_of_pos (by simpa using brace)]
    exact (utf8_append [c] _).symm

theorem LlamaResponse.codec_reads (r : LlamaResponse) :
    LlamaResponse.codec.Reads {} r ⟨toValid r.content⟩ :=
  reads_struct (by decide) (readsFields_of (by decide) (reads_string _ _) rfl)

theorem LlamaResponse.codec_numeric (r : LlamaResponse) : (LlamaResponse.codec.encode r).Numeric :=
  numeric_struct trivial

theorem LlamaResponse.codec_depth (r : LlamaResponse) : (LlamaResponse.codec.encode r).depth ≤ 1 :=
  depth_struct (Nat.zero_le 0)

/-- The client reads the response that the server has written. -/
theorem unmarshal_response (s : List Char) :
    unmarshal LlamaResponse.codec {}
        (marshal LlamaResponse.codec (decisionRequest.response (utf8 s))) =
      some (decisionRequest.response (utf8 s)) := by
  have whole : toValid (cutAt decisionRequest.stop (utf8 s)) = cutAt decisionRequest.stop (utf8 s) := by
    rw [cutAt_brace, takeWhile_utf8]
    exact valid_utf8 _
  have read := unmarshal_reads (LlamaResponse.codec_reads (decisionRequest.response (utf8 s)))
    (LlamaResponse.codec_numeric _) ((LlamaResponse.codec_depth _).trans (by decide))
  rw [LlamaRequest.response] at read ⊢
  dsimp only at read
  rwa [whole] at read

/-- `ProposeAction` takes no decision from a response to the request. -/
theorem decisionOf_response {s : List Char} (derived : Derives decisionRules (.rule .root) s)
    {decision : LLMDecision} (decoded : decode (utf8 s) = some decision) {respBody : Bytes}
    (response : unmarshal LlamaResponse.codec {} respBody =
      some (decisionRequest.response (utf8 s))) : decisionOf respBody = none := by
  rw [decisionOf, response, Option.bind_some]
  exact decode_rawOutput derived decoded

/-- No sentence of the grammar that is a decision decodes to the same one after the cut, and no
response with what is left of it makes `ProposeAction` take that decision. -/
theorem decisionOf_ne {s : List Char} (derived : Derives decisionRules (.rule .root) s)
    {decision : LLMDecision} (decoded : decode (utf8 s) = some decision) :
    decode (decisionRequest.response (utf8 s)).rawOutput ≠ some decision ∧
      ∀ respBody, unmarshal LlamaResponse.codec {} respBody =
        some (decisionRequest.response (utf8 s)) → decisionOf respBody ≠ some decision := by
  refine ⟨?_, fun respBody response => ?_⟩
  · rw [decode_rawOutput derived decoded]
    exact nofun
  · rw [decisionOf_response derived decoded response]
    exact nofun

/-! ## A decision -/

/-- Members without white space, and the brace behind them. -/
def plainMembers : List (String × List Char) → List Char
  | [] => ['\x7d']
  | [last] => quoted last.1 ++ ':' :: last.2 ++ ['\x7d']
  | first :: rest => quoted first.1 ++ ':' :: first.2 ++ ',' :: plainMembers rest

theorem derives_ws : Derives decisionRules (.rule .ws) [] := .rule .starNil

theorem derives_member {key : String} {rule : Rule} {value : List Char}
    (own : Derives decisionRules (.rule rule) value) :
    Derives decisionRules (seqs (member key rule)) (quoted key ++ ':' :: value) := by
  refine derives_seqs.mpr ⟨[[], quoted key, [], [':'], [], value], ?_, by simp⟩
  exact .cons derives_ws (.cons .text (.cons derives_ws (.cons .text (.cons derives_ws
    (.cons own .nil)))))

theorem derives_members {fields : List (String × Rule)} {values : List (List Char)}
    (each : List.Forall₂ (fun field value => Derives decisionRules (.rule field.2) value) fields values) :
    Derives decisionRules (seqs (members fields))
      (plainMembers ((fields.map (·.1)).zip values)) := by
  induction each with
  | nil => exact .text
  | @cons field value fields values own rest ih =>
    cases rest with
    | nil => exact derives_seqs_append.mpr ⟨_, ['\x7d'], rfl, derives_member own, .text⟩
    | cons next later =>
      refine derives_seqs_append.mpr ⟨_, ',' :: plainMembers _, rfl, derives_member own, ?_⟩
      exact derives_seqs_cons.mpr ⟨[','], _, rfl, .text, ih⟩

/-- Derived values make an object that is derived. -/
theorem derives_plain {fields : List (String × Rule)} {values : List (List Char)}
    (each : List.Forall₂ (fun field value => Derives decisionRules (.rule field.2) value) fields values) :
    Derives decisionRules (object fields)
      ('\x7b' :: plainMembers ((fields.map (·.1)).zip values)) :=
  derives_seqs_cons.mpr ⟨['\x7b'], _, rfl, .text, derives_members each⟩

theorem derives_string {s : String} (own : ∀ c ∈ s.toList, within [('"', '"')] c = false) :
    Derives decisionRules (.rule .string) (quoted s) := by
  refine .rule (derives_seqs.mpr ⟨[['"'], s.toList, ['"']], ?_, by simp [quoted]⟩)
  exact .cons .text (.cons (derives_star_range own) (.cons .text .nil))

theorem derives_number {s : List Char} (some : s ≠ []) (own : ∀ c ∈ s, within [('0', '9')] c = true) :
    Derives decisionRules (.rule .number) s := by
  obtain ⟨c, rest, rfl⟩ := List.exists_cons_of_ne_nil some
  obtain ⟨head, tail⟩ := List.forall_mem_cons.mp own
  exact .rule (.plus (.range head) (derives_star_range tail))

/-- `{"sni":"a.b","utls":"","port":443}`. -/
def sampleParameters : List Char :=
  '\x7b' :: plainMembers [("sni", quoted "a.b"), ("utls", quoted ""), ("port", "443".toList)]

def sample : List Char :=
  '\x7b' :: plainMembers [("protocol", quoted "tuic"), ("parameters", sampleParameters),
    ("rotation_interval_sec", "60".toList), ("enable_bt_mesh", "true".toList),
    ("explanation", quoted "ok")]

def sampleDecision : LLMDecision where
  protocol := lit "tuic"
  parameters := { sni := lit "a.b", port := 443 }
  rotationIntervalSec := 60
  enableBTMesh := true
  explanation := lit "ok"

theorem sample_derived : Derives decisionRules (.rule .root) sample := by
  have parameters : Derives decisionRules (.rule .parameters) sampleParameters := by
    refine .rule (derives_plain (.cons (derives_string ?_) (.cons (derives_string ?_)
      (.cons (derives_number ?_ ?_) .nil))))
    · exact forall_mem_of_all (by decide)
    · exact forall_mem_of_all (by decide)
    · decide
    · exact forall_mem_of_all (by decide)
  refine .rule (derives_plain (.cons (derives_string ?_) (.cons parameters
    (.cons (derives_number ?_ ?_) (.cons (.rule (.altLeft .text)) (.cons (derives_string ?_) .nil))))))
  · exact forall_mem_of_all (by decide)
  · decide
  · exact forall_mem_of_all (by decide)
  · exact forall_mem_of_all (by decide)

theorem sample_decoded : decode (utf8 sample) = some sampleDecision := by decide +kernel

/-- The body of the response to `sample`. -/
def sampleBody : Bytes := marshal LlamaResponse.codec (decisionRequest.response (utf8 sample))

theorem decisionOf_ne_sample :
    decode (decisionRequest.response (utf8 sample)).rawOutput ≠ some sampleDecision ∧
      decisionOf sampleBody ≠ some sampleDecision :=
  have ne := decisionOf_ne sample_derived sample_decoded
  ⟨ne.1, ne.2 sampleBody (unmarshal_response sample)⟩

/-- The brace of the parameters ends the text. -/
theorem decisionOf_lost : ¬ ∀ (s : List Char) (decision : LLMDecision) (respBody : Bytes),
    Derives decisionRules (.rule .root) s → decode (utf8 s) = some decision →
      unmarshal LlamaResponse.codec {} respBody = some (decisionRequest.response (utf8 s)) →
        decisionOf respBody = some decision := by
  intro every
  have same := every sample sampleDecision sampleBody sample_derived sample_decoded
    (unmarshal_response sample)
  have none : decisionOf sampleBody = none :=
    decisionOf_response sample_derived sample_decoded (unmarshal_response sample)
  rw [none] at same
  cases same

end ShadowNet.Llm
