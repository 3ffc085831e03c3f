import TransferProof.Network.Query
import TransferProof.Proofs.Network.Routing
import TransferProof.Proofs.Text.Splitting
import TransferProof.Poll

/-!
# What a URL carries

The texts of a request are put into the query as they are. A service reads them back just if they
hold nothing that means something in a URL. Two requests that differ never have one URL as long as
they differ in one text only, or as one of them is without ampersands that shift the bounds of its
fields.
-/

namespace TransferProof

namespace Query

section Decoding

def Escapes (t : Text) : Prop :=
  ∃ before high low after, t = before ++ 0x25 :: high :: low :: after
    ∧ (byte? high low).isSome = true

theorem Escapes.cons {t : Text} (escapes : Escapes t) (c : CodePoint) : Escapes (c :: t) := by
  obtain ⟨before, high, low, after, same, spelled⟩ := escapes
  exact ⟨c :: before, high, low, after, by rw [same, List.cons_append], spelled⟩

theorem Escapes.of_cons {c : CodePoint} {t : Text} (escapes : Escapes (c :: t)) :
    (∃ high low after, c = 0x25 ∧ t = high :: low :: after ∧ (byte? high low).isSome = true)
      ∨ Escapes t := by
  obtain ⟨before, high, low, after, same, spelled⟩ := escapes
  cases before with
  | nil =>
    obtain ⟨rfl, rfl⟩ := List.cons.inj same
    exact .inl ⟨high, low, after, rfl, rfl, spelled⟩
  | cons first before =>
    obtain ⟨rfl, rfl⟩ := List.cons.inj same
    exact .inr ⟨before, high, low, after, rfl, spelled⟩

theorem decode_of_not_escapes {t : Text} (plain : ¬ Escapes t) : decode t = t := by
  unfold decode
  -- The decoder may be in the midst of a character. Without escapes it never is.
  generalize same : (none : Option Utf8.Begun) = begun
  induction begun, t using decodeFrom.induct with
  | case1 begun => subst same; rfl
  | case2 begun high low rest byte spelled ih =>
    exact absurd ⟨[], high, low, rest, rfl, by rw [spelled]; rfl⟩ plain
  | case3 begun high low rest spelled ih =>
    subst same
    have later := ih (fun escapes => plain (escapes.cons _)) rfl
    simp [decodeFrom, spelled, later, Utf8.last]
  | case4 begun c rest free ih =>
    subst same
    have later := ih (fun escapes => plain (escapes.cons _)) rfl
    rw [decodeFrom, later]
    · rfl
    · exact free

/-- Decoding shortens each escape, and nothing makes up for it. -/
theorem length_decodeFrom_le (begun : Option Utf8.Begun) (t : Text) :
    (decodeFrom begun t).length ≤ (Utf8.last begun).length + t.length
      ∧ (Escapes t → (decodeFrom begun t).length < (Utf8.last begun).length + t.length) := by
  induction begun, t using decodeFrom.induct with
  | case1 begun =>
    refine ⟨by simp [decodeFrom], ?_⟩
    rintro ⟨before, _, _, _, same, -⟩
    simp at same
  | case2 begun high low rest byte spelled ih =>
    have bound := Utf8.length_next_le begun byte
    have later := ih.1
    simp only [decodeFrom, spelled, List.length_append, List.length_cons]
    omega
  | case3 begun high low rest spelled ih =>
    obtain ⟨later, shorter⟩ := ih
    simp only [decodeFrom, spelled, List.length_append, List.length_cons, Utf8.last,
      List.length_nil] at later shorter ⊢
    refine ⟨by omega, fun escapes => ?_⟩
    -- What stands here is no escape, so there is one later.
    obtain ⟨_, _, _, -, same, some⟩ | escapes := escapes.of_cons
    · obtain ⟨rfl, rest⟩ := List.cons.inj same
      obtain ⟨rfl, -⟩ := List.cons.inj rest
      rw [spelled] at some
      cases some
    · have := shorter escapes
      omega
  | case4 begun c rest free ih =>
    obtain ⟨later, shorter⟩ := ih
    rw [decodeFrom.eq_3 _ _ _ free]
    simp only [List.length_append, List.length_cons, Utf8.last, List.length_nil] at later shorter ⊢
    refine ⟨by omega, fun escapes => ?_⟩
    obtain ⟨high, low, after, rfl, rfl, -⟩ | escapes := escapes.of_cons
    · exact (free high low after rfl rfl).elim
    · have := shorter escapes
      omega

/-- Only a text without escapes is what it decodes to. -/
theorem decode_eq_self_iff (t : Text) : decode t = t ↔ ¬ Escapes t := by
  constructor
  · intro same escapes
    have shorter := (length_decodeFrom_le none t).2 escapes
    rw [← decode, same] at shorter
    simp [Utf8.last] at shorter
  · exact decode_of_not_escapes

end Decoding

section Reading

theorem fragment_of_not_mem {url : Text} (absent : 0x23 ∉ url) : fragment url = [] := by
  rw [fragment, Text.splitFirst_of_not_mem absent]
  rfl

/-- A URL that does not end with a hash has an empty fragment only if it holds no hash. -/
theorem not_mem_of_fragment {url : Text} (ends : url.getLast? ≠ some 0x23)
    (empty : fragment url = []) : 0x23 ∉ url := by
  intro member
  obtain ⟨before, after, rfl, absent⟩ := List.eq_append_cons_of_mem member
  rw [fragment, Text.splitFirst_append absent] at empty
  obtain rfl : after = [] := empty
  exact ends List.getLast?_concat

theorem ofUrl_append {path query : Text} (pathFree : 0x3F ∉ path)
    (free : 0x23 ∉ path ++ 0x3F :: query) : ofUrl (path ++ 0x3F :: query) = query := by
  rw [ofUrl, Text.splitFirst_of_not_mem free, Text.splitFirst_append pathFree]
  rfl

def written (name value : Text) : Text := name ++ 0x3D :: value

theorem field_written {name : Text} (free : 0x3D ∉ name) (value : Text) :
    field (written name value) = (decode name, decode value) := by
  rw [field, written, Text.splitFirst_append free]
  rfl

def parameters (request : Request) : Text :=
  written "txhash" request.txHash ++ 0x26 :: (written "address" request.recipientAddress
    ++ 0x26 :: (written "viewkey" request.txKey ++ 0x26 :: written "txprove" "1"))

theorem query_eq (request : Request) :
    request.query = "/api/outputs" ++ 0x3F :: parameters request := by
  simp only [Request.query, parameters, written, List.append_assoc, List.cons_append]
  rfl

end Reading

section Law

variable {request other : Request}

def texts (request : Request) : List Text :=
  [request.txHash, request.recipientAddress, request.txKey]

def asked (request : Request) : List (Text × Text) :=
  [("txhash", request.txHash), ("address", request.recipientAddress), ("viewkey", request.txKey),
    ("txprove", "1")]

/-- A text that holds nothing that means something in a query. -/
structure Plain (t : Text) : Prop where
  ampersand : 0x26 ∉ t
  hash : 0x23 ∉ t
  escape : ¬ Escapes t

/-- The service reads just what the request says. -/
structure Carried (request : Request) : Prop where
  read : fields request.query = asked request
  rest : fragment request.query = []

theorem hash_mem_query_iff : 0x23 ∈ request.query ↔ ∃ t ∈ texts request, 0x23 ∈ t := by
  have first : 0x23 ∉ Text.ofString "/api/outputs?txhash=" := by decide
  have second : 0x23 ∉ Text.ofString "&address=" := by decide
  have third : 0x23 ∉ Text.ofString "&viewkey=" := by decide
  have fourth : 0x23 ∉ Text.ofString "&txprove=1" := by decide
  simp [Request.query, texts, first, second, third, fourth]

theorem count_written {name : Text} (free : 0x26 ∉ name) (value : Text) :
    (written name value).count 0x26 = value.count 0x26 := by
  simp [written, List.count_eq_zero_of_not_mem free]

theorem length_pieces_parameters (request : Request) :
    (Text.pieces 0x26 (parameters request)).length = 4 + request.txHash.count 0x26
      + request.recipientAddress.count 0x26 + request.txKey.count 0x26 := by
  have last : (written "txprove" "1").count 0x26 = 0 := by decide
  rw [Text.length_pieces, parameters]
  simp only [List.count_append, List.count_cons_self, last]
  rw [count_written (by decide), count_written (by decide), count_written (by decide)]
  omega

theorem pieces_written {name value : Text} (nameFree : 0x26 ∉ name) (free : 0x26 ∉ value) :
    Text.pieces 0x26 (written name value) = [written name value] := by
  refine Text.pieces_of_not_mem ?_
  simp [written, nameFree, free]

/-- Without ampersands in the texts the query is cut where it was put together. -/
theorem pieces_parameters (free : ∀ t ∈ texts request, 0x26 ∉ t) :
    Text.pieces 0x26 (parameters request) = [written "txhash" request.txHash,
      written "address" request.recipientAddress, written "viewkey" request.txKey,
      written "txprove" "1"] := by
  have hash := free request.txHash (by simp [texts])
  have address := free request.recipientAddress (by simp [texts])
  have key := free request.txKey (by simp [texts])
  rw [parameters, Text.pieces_append, Text.pieces_append, Text.pieces_append,
    pieces_written (by decide) hash, pieces_written (by decide) address,
    pieces_written (by decide) key, pieces_written (by decide) (by decide)]
  rfl

/-- Each ampersand in a text is one cut more. -/
theorem not_mem_ampersand_of_length
    (four : (Text.pieces 0x26 (parameters request)).length = 4) :
    ∀ t ∈ texts request, 0x26 ∉ t := by
  rw [length_pieces_parameters] at four
  intro t member present
  have positive := List.count_pos_iff.mpr present
  simp only [texts, List.mem_cons, List.not_mem_nil, or_false] at member
  obtain rfl | rfl | rfl := member
  · omega
  · omega
  · omega

theorem ofUrl_query (free : 0x23 ∉ request.query) : ofUrl request.query = parameters request := by
  rw [query_eq] at free ⊢
  exact ofUrl_append (by decide) free

theorem fields_query (free : 0x23 ∉ request.query) (whole : ∀ t ∈ texts request, 0x26 ∉ t) :
    fields request.query = ([("txhash", decode request.txHash),
      ("address", decode request.recipientAddress), ("viewkey", decode request.txKey),
      ("txprove", "1")] : List (Text × Text)) := by
  rw [fields, ofUrl_query free, pieces_parameters whole]
  simp only [List.map_cons, List.map_nil]
  rw [field_written (by decide), field_written (by decide), field_written (by decide),
    field_written (by decide)]
  rfl

theorem Carried.not_mem_hash (carried : Carried request) : 0x23 ∉ request.query := by
  have ends : request.query.getLast? = some 0x31 := by
    rw [Request.query, List.getLast?_append]
    rfl
  refine not_mem_of_fragment ?_ carried.rest
  rw [ends]
  decide

theorem Carried.not_mem_ampersand (carried : Carried request) :
    ∀ t ∈ texts request, 0x26 ∉ t := by
  have length := congrArg List.length carried.read
  rw [fields, ofUrl_query carried.not_mem_hash, List.length_map] at length
  exact not_mem_ampersand_of_length length

/-- The service reads what the request says just if all texts of the request are plain. -/
theorem carried_iff_plain (request : Request) :
    Carried request ↔ ∀ t ∈ texts request, Plain t := by
  constructor
  · intro carried
    have whole := carried.not_mem_ampersand
    have read := fields_query carried.not_mem_hash whole
    rw [carried.read] at read
    simp only [asked, List.cons.injEq, Prod.mk.injEq, true_and, and_true] at read
    obtain ⟨hash, address, key⟩ := read
    have decoded : ∀ t ∈ texts request, t = decode t := by
      simp only [texts, List.forall_mem_cons]
      exact ⟨hash, address, key, nofun⟩
    intro t member
    refine ⟨whole t member, fun present => ?_, (decode_eq_self_iff t).mp (decoded t member).symm⟩
    exact carried.not_mem_hash (hash_mem_query_iff.mpr ⟨t, member, present⟩)
  · intro plain
    have free : 0x23 ∉ request.query := by
      intro present
      obtain ⟨t, member, present⟩ := hash_mem_query_iff.mp present
      exact (plain t member).hash present
    refine ⟨?_, fragment_of_not_mem free⟩
    have decoded : ∀ t ∈ texts request, decode t = t :=
      fun t member => decode_of_not_escapes (plain t member).escape
    rw [fields_query free fun t member => (plain t member).ampersand, decoded _ (by simp [texts]),
      decoded _ (by simp [texts]), decoded _ (by simp [texts])]
    rfl

/-- The client is asked for this call by a poll for the request. -/
def Asks (request : Request) (client : Client) (call : Call) : Prop :=
  ∃ v provider agent session, v.request = request
    ∧ (Poll.ask v client provider agent session).call = some call

/-- What can be told of two requests that have one URL. -/
structure Alike (request other : Request) : Prop where
  hash : request.recipientAddress = other.recipientAddress → request.txKey = other.txKey →
    request.txHash = other.txHash
  address : request.txHash = other.txHash → request.txKey = other.txKey →
    request.recipientAddress = other.recipientAddress
  key : request.txHash = other.txHash → request.recipientAddress = other.recipientAddress →
    request.txKey = other.txKey
  whole : (∀ t ∈ texts request, 0x26 ∉ t) → texts request = texts other

theorem Asks.url_eq {client : Client} {call : Call} (asks : Asks request client call) :
    call.url = client.baseUrl ++ request.query := by
  obtain ⟨v, provider, agent, session, rfl, sent⟩ := asks
  rw [Poll.ask, Client.call_get] at sent
  cases found : client.proxy provider with
  | error fault => simp [found] at sent
  | ok proxy =>
    rw [found] at sent
    obtain rfl := Option.some.inj sent
    rfl

theorem alike_of_query_eq (same : request.query = other.query) : Alike request other := by
  constructor
  case hash =>
    intro address key
    rw [Request.query, Request.query, address, key] at same
    simpa using same
  case address =>
    intro hash key
    rw [Request.query, Request.query, hash, key] at same
    simpa using same
  case key =>
    intro hash address
    rw [Request.query, Request.query, hash, address] at same
    simpa using same
  case whole =>
    intro free
    rw [query_eq, query_eq] at same
    have parts := (List.cons.inj (List.append_cancel_left same)).2
    have cut := congrArg (Text.pieces 0x26) parts
    rw [pieces_parameters free] at cut
    have otherFree := not_mem_ampersand_of_length (congrArg List.length cut).symm
    rw [pieces_parameters otherFree] at cut
    simp only [written, List.append_cancel_left_eq, List.cons.injEq, true_and, and_true] at cut
    obtain ⟨hash, address, key⟩ := cut
    rw [texts, texts, hash, address, key]

/-- The service reads in the query of a request what the request says just if all texts are plain.
The URL belongs to no other request that differs from it in one text only, and to none at all that
differs if the texts hold no ampersand. -/
theorem query_carries (request : Request) :
    (Carried request ↔ ∀ t ∈ texts request, Plain t)
      ∧ ∀ other client call again, Asks request client call → Asks other client again →
        call.url = again.url → Alike request other := by
  refine ⟨carried_iff_plain request, fun other client call again asks asksAgain same => ?_⟩
  rw [asks.url_eq, asksAgain.url_eq] at same
  exact alike_of_query_eq (List.append_cancel_left same)

def transfer (txHash recipientAddress txKey : Text) : Request where
  txHash := txHash
  recipientAddress := recipientAddress
  txKey := txKey
  serviceAddress := "node.example"
  tradeId := "7"
  amount := 1
  tradeDate := .zero false
  requiredConfirmations := 10
  firstRequest := 0

/-- A request that is carried, and another for more of the same transfer. -/
theorem query_carries_transfer :
    Carried (transfer "5e" "41d" "f3") ∧
      Alike (transfer "5e" "41d" "f3") { transfer "5e" "41d" "f3" with amount := 2 } := by
  obtain ⟨carried, alike⟩ := query_carries (transfer "5e" "41d" "f3")
  refine ⟨carried.mpr ?_, ?_⟩
  · simp only [texts, transfer, List.forall_mem_cons]
    refine ⟨⟨by decide, by decide, (decode_eq_self_iff _).mp (by decide)⟩,
      ⟨by decide, by decide, (decode_eq_self_iff _).mp (by decide)⟩,
      ⟨by decide, by decide, (decode_eq_self_iff _).mp (by decide)⟩, nofun⟩
  · have asks (request : Request) : Asks request {} (({} : Client).call request.query none none) :=
      ⟨{ request := request }, none, [], fun _ => .response 200 none [], rfl, rfl⟩
    exact alike _ {} _ _ (asks _) (asks _) rfl

/-- With an ampersand the hash says something about the address, and another request has the same
URL. -/
theorem ampersand_moves_bounds :
    ¬ Carried (transfer "a&address=b" "c" "d")
      ∧ (transfer "a&address=b" "c" "d").query = (transfer "a" "b&address=c" "d").query
      ∧ (transfer "a&address=b" "c" "d").txHash ≠ (transfer "a" "b&address=c" "d").txHash := by
  refine ⟨fun carried => absurd carried.read (by decide), by decide, by decide⟩

end Law

end Query

end TransferProof
