import Mathlib.Data.List.Chain
import Mathlib.Data.List.TakeWhile
import Bookbinder.Proofs.Attempts
import Bookbinder.Web.Exchange

/-!
What is asked of a network. Main statement: the addresses that are asked make one chain, in which each answer
but the last one points to the next address; it starts where it was asked to, and it is not longer than the
number of answers that are followed and one more. It ends in a fault just if an address goes astray.
-/

set_option autoImplicit false

namespace Bookbinder.Web

open Bookbinder.Text (Bytes)

def IsAscii (text : String) : Prop := ∀ c ∈ text.toList, c.toNat < 0x80

instance (text : String) : Decidable (IsAscii text) :=
  List.decidableBAll (fun c : Char => c.toNat < 0x80) text.toList

/-- The first characters in the headers of an answer that are not ASCII. -/
def Response.foreign? (response : Response) : Option Foreign :=
  response.headers.findSome? fun header => (firstForeign header.1).or (firstForeign header.2)

theorem firstForeign_eq_none_iff (text : String) : firstForeign text = none ↔ IsAscii text := by
  have plain := List.dropWhile_eq_nil_iff (p := fun c : Char => decide (c.toNat < 0x80)) (l := text.toList)
  simp only [decide_eq_true_eq] at plain
  rw [IsAscii, ← plain]
  unfold firstForeign
  dsimp only
  split <;> simp_all

theorem Response.foreign?_eq_none_iff (response : Response) :
    response.foreign? = none ↔ ∀ header ∈ response.headers, IsAscii header.1 ∧ IsAscii header.2 := by
  simp [foreign?, List.findSome?_eq_none_iff, firstForeign_eq_none_iff]

/-- An answer that can be read: its headers are ASCII, and the codings of its content can be undone. -/
structure Receives (network : Network) (asked : Address) (response : Response) (content : Bytes) : Prop where
  answered : network asked.text = .response response
  ascii : ∀ header ∈ response.headers, IsAscii header.1 ∧ IsAscii header.2
  decoded : Compression.Coding.decodeAll response.codings response.body = .ok content

/-- The answer at an address points to another one. -/
structure Redirects (network : Network) (asked next : Address) : Prop where
  kind : saysKind asked.text = true
  points : ∃ response content location, Receives network asked response content ∧
    response.location? = some location ∧ redirect asked location = .ok next

/-- What comes of an address whose answer points nowhere else. -/
inductive Ends (network : Network) (asked : Address) : Except Trouble Bytes → Prop where
  | content {response : Response} {content : Bytes} (received : Receives network asked response content)
      (kind : saysKind asked.text = true) (final : response.location? = none)
      (success : response.isSuccess = true) : Ends network asked (.ok content)
  | status {response : Response} {content : Bytes} (received : Receives network asked response content)
      (kind : saysKind asked.text = true) (final : response.location? = none)
      (failure : response.isSuccess = false) :
      Ends network asked (.error (.problem (.status response.status)))
  | unreachable {message : String} (answered : network asked.text = .unreachable message) :
      Ends network asked (.error (.problem (.unreachable message)))
  | damaged {response : Response} {damage : Compression.Damage}
      (answered : network asked.text = .response response)
      (ascii : ∀ header ∈ response.headers, IsAscii header.1 ∧ IsAscii header.2)
      (decoded : Compression.Coding.decodeAll response.codings response.body = .error damage) :
      Ends network asked (.error (.problem (.damaged damage)))
  | badLocation {response : Response} {content : Bytes} {location : String} {fault : AddressFault}
      (received : Receives network asked response content) (kind : saysKind asked.text = true)
      (points : response.location? = some location) (malformed : Address.parse location = .error fault) :
      Ends network asked (.error (.problem (.badLocation fault)))
  | misled {response : Response} {content : Bytes} {location : String} {address : Address} {fault : Fault}
      (received : Receives network asked response content) (kind : saysKind asked.text = true)
      (points : response.location? = some location) (parsed : Address.parse location = .ok address)
      (nowhere : resolve asked address = .error (.fault fault)) : Ends network asked (.error (.fault fault))
  | foreign {response : Response} {foreign : Foreign} (answered : network asked.text = .response response)
      (found : response.foreign? = some foreign) : Ends network asked (.error (.fault (.foreignHeader foreign)))
  | unknownKind {response : Response} {content : Bytes} (received : Receives network asked response content)
      (kind : saysKind asked.text = false) : Ends network asked (.error (.fault (.unknownKind asked.text)))

variable {network : Network} {asked next : Address} {response : Response} {content : Bytes}

section

variable {α β : Type}

/-- What goes wrong, if anything does, is a fault. -/
def OnlyFaults (result : Except Trouble α) : Prop :=
  ∀ trouble, result = .error trouble → ∃ fault, trouble = .fault fault

theorem onlyFaults_ok (value : α) : OnlyFaults (.ok value) := by
  intro trouble failed
  cases failed

theorem onlyFaults_fault (fault : Fault) : OnlyFaults (.error (.fault fault) : Except Trouble α) := by
  intro trouble failed
  cases failed
  exact ⟨fault, rfl⟩

theorem OnlyFaults.bind {first : Except Trouble α} {next : α → Except Trouble β} (faults : OnlyFaults first)
    (later : ∀ value, OnlyFaults (next value)) : OnlyFaults (first >>= next) := by
  cases first with
  | ok value => exact later value
  | error trouble =>
    obtain ⟨fault, rfl⟩ := faults trouble rfl
    exact onlyFaults_fault fault

theorem onlyFaults_mapError {ε : Type} (result : Except ε α) (fault : ε → Fault) :
    OnlyFaults (result.mapError fun wrong => .fault (fault wrong)) := by
  cases result with
  | ok value => exact onlyFaults_ok value
  | error wrong => exact onlyFaults_fault _

end

theorem onlyFaults_resolve (asked address : Address) : OnlyFaults (resolve asked address) := by
  have named (address : Address) : OnlyFaults (hostName address) := onlyFaults_mapError _ _
  have hosted : OnlyFaults (keepHost asked address) := by
    unfold keepHost
    split
    · exact onlyFaults_ok _
    · refine (named _).bind fun name => ?_
      split
      · exact (named _).bind fun same => onlyFaults_mapError _ _
      · exact onlyFaults_ok _
  have absolute (address : Address) : OnlyFaults (makeAbsolute asked address) := by
    unfold makeAbsolute
    split
    · exact onlyFaults_ok _
    · exact onlyFaults_mapError _ _
  have marked (address : Address) : OnlyFaults (keepFragment asked address) := by
    unfold keepFragment
    dsimp only
    split
    · exact onlyFaults_ok _
    · split
      · exact onlyFaults_fault _
      · exact onlyFaults_mapError _ _
  exact hosted.bind fun address => (absolute address).bind fun address => (marked address).bind fun address =>
    (named address).bind fun _ => onlyFaults_ok address

/-- A location that is no address is a problem. One that is may still not lead to an address, and that is a
fault. -/
theorem redirect_cases (asked : Address) (location : String) :
    (∃ next, redirect asked location = .ok next) ∨ (∃ fault, Address.parse location = .error fault) ∨
      ∃ address fault, Address.parse location = .ok address ∧ resolve asked address = .error (.fault fault) := by
  rw [redirect]
  cases parsed : Address.parse location with
  | error fault => exact .inr (.inl ⟨fault, rfl⟩)
  | ok address =>
    cases leads : resolve asked address with
    | ok next => exact .inl ⟨next, leads⟩
    | error trouble =>
      obtain ⟨fault, rfl⟩ := onlyFaults_resolve asked address trouble leads
      exact .inr (.inr ⟨address, fault, rfl, leads⟩)

theorem receive_eq (response : Response) :
    receive (.response response) =
      match response.foreign? with
      | some foreign => .error (.fault (.foreignHeader foreign))
      | none =>
        match Compression.Coding.decodeAll response.codings response.body with
        | .error damage => .error (.problem (.damaged damage))
        | .ok content => .ok { response with body := content } := rfl

theorem conclude_of_error {reply : Reply} {trouble : Trouble} (refused : receive reply = .error trouble)
    (asked : Address) : conclude asked reply = .error trouble := by
  rw [conclude, refused]
  rfl

theorem conclude_of_receives (received : Receives network asked response content) :
    conclude asked (network asked.text) =
      if saysKind asked.text then
        match response.location? with
        | some location => (redirect asked location).map .inr
        | none => if response.isSuccess then .ok (.inl content) else .error (.problem (.status response.status))
      else .error (.fault (.unknownKind asked.text)) := by
  have plain := response.foreign?_eq_none_iff.2 received.ascii
  have pointer : Response.location? { response with body := content } = response.location? := rfl
  have success : Response.isSuccess { response with body := content } = response.isSuccess := rfl
  rw [conclude, received.answered, receive_eq, plain, received.decoded]
  simp only [bind, Except.bind, pointer, success]
  cases saysKind asked.text with
  | false => rfl
  | true =>
    cases response.location? with
    | some location => cases redirect asked location <;> rfl
    | none => cases response.isSuccess <;> rfl

theorem ends_or_redirects (network : Network) (asked : Address) :
    (∃ next, Redirects network asked next) ∨ ∃ result, Ends network asked result := by
  cases answered : network asked.text with
  | unreachable message => exact .inr ⟨_, .unreachable answered⟩
  | response response =>
    cases plain : response.foreign? with
    | some foreign => exact .inr ⟨_, .foreign answered plain⟩
    | none =>
      have ascii := response.foreign?_eq_none_iff.1 plain
      cases decoded : Compression.Coding.decodeAll response.codings response.body with
      | error damage => exact .inr ⟨_, .damaged answered ascii decoded⟩
      | ok content =>
        have received : Receives network asked response content := ⟨answered, ascii, decoded⟩
        cases kind : saysKind asked.text with
        | false => exact .inr ⟨_, .unknownKind received kind⟩
        | true =>
          cases points : response.location? with
          | some location =>
            rcases redirect_cases asked location with
              ⟨next, leads⟩ | ⟨fault, malformed⟩ | ⟨address, fault, parsed, nowhere⟩
            · exact .inl ⟨next, kind, response, content, location, received, points, leads⟩
            · exact .inr ⟨_, .badLocation received kind points malformed⟩
            · exact .inr ⟨_, .misled received kind points parsed nowhere⟩
          | none =>
            cases success : response.isSuccess with
            | true => exact .inr ⟨_, .content received kind points success⟩
            | false => exact .inr ⟨_, .status received kind points success⟩

theorem Redirects.conclude (redirects : Redirects network asked next) :
    conclude asked (network asked.text) = .ok (.inr next) := by
  obtain ⟨response, content, location, received, points, leads⟩ := redirects.points
  rw [conclude_of_receives received, if_pos redirects.kind, points]
  simp only [leads]
  rfl

theorem Ends.conclude {result : Except Trouble Bytes} (ends : Ends network asked result) :
    conclude asked (network asked.text) = result.map .inl := by
  cases ends with
  | content received kind final success =>
    rw [conclude_of_receives received, if_pos kind, final]
    simp only [success]
    rfl
  | status received kind final failure =>
    rw [conclude_of_receives received, if_pos kind, final]
    simp only [failure]
    rfl
  | unreachable answered =>
    rw [answered]
    rfl
  | damaged answered ascii decoded =>
    refine conclude_of_error ?_ asked
    rw [answered, receive_eq, (Response.foreign?_eq_none_iff _).2 ascii, decoded]
  | badLocation received kind points malformed =>
    rw [conclude_of_receives received, if_pos kind, points]
    simp only [redirect, malformed]
    rfl
  | misled received kind points parsed nowhere =>
    rw [conclude_of_receives received, if_pos kind, points]
    simp only [redirect, parsed, nowhere]
    rfl
  | foreign answered found =>
    refine conclude_of_error ?_ asked
    rw [answered, receive_eq, found]
  | unknownKind received kind =>
    rw [conclude_of_receives received, if_neg (by simp [kind])]
    rfl

/-! ### One answer after the other -/

/-- What was asked for from an address on, and what came of it: at most so many answers were followed. -/
structure Trail (network : Network) (most : Nat) (start : Address) (asked : List Address)
    (result : Except Trouble Bytes) : Prop where
  starts : asked.head? = some start
  chain : asked.IsChain (Redirects network)
  short : asked.length ≤ most + 1
  ends : ∃ last, asked.getLast? = some last ∧
    (Ends network last result ∨
      asked.length = most + 1 ∧ (∃ next, Redirects network last next) ∧
        result = .error (.problem .tooManyRedirects))

theorem follow_of_ends {result : Except Trouble Bytes} (ends : Ends network asked result) (budget : Nat) :
    follow network (budget + 1) asked = ⟨[asked.text], result⟩ := by
  rw [follow, ends.conclude]
  cases result <;> rfl

theorem follow_of_redirects (redirects : Redirects network asked next) (budget : Nat) :
    follow network (budget + 1) asked =
      ⟨asked.text :: (follow network budget next).requests, (follow network budget next).result⟩ := by
  rw [follow, redirects.conclude]

theorem Trail.single {result : Except Trouble Bytes} (ends : Ends network asked result) (most : Nat) :
    Trail network most asked [asked] result :=
  ⟨rfl, List.isChain_singleton asked, by simp, asked, rfl, .inl ends⟩

theorem Trail.cons {most : Nat} {later : List Address} {result : Except Trouble Bytes}
    (redirects : Redirects network asked next) (trail : Trail network most next later result) :
    Trail network (most + 1) asked (asked :: later) result := by
  obtain ⟨starts, chain, short, last, final, ends⟩ := trail
  cases later with
  | nil => cases starts
  | cons first rest =>
    cases starts
    refine ⟨rfl, List.isChain_cons_cons.2 ⟨redirects, chain⟩, Nat.succ_le_succ short, last, ?_, ?_⟩
    · rwa [List.getLast?_cons_cons]
    · exact ends.imp_right fun ⟨full, onward, spent⟩ => ⟨congrArg (· + 1) full, onward, spent⟩

theorem trail_follow (network : Network) (most : Nat) (start : Address) :
    ∃ asked, (follow network (most + 1) start).requests = asked.map Address.text ∧
      Trail network most start asked (follow network (most + 1) start).result := by
  -- the induction is on how many answers may still be followed
  induction most generalizing start with
  | zero =>
    refine ⟨[start], ?_⟩
    rcases ends_or_redirects network start with ⟨next, redirects⟩ | ⟨result, ends⟩
    · rw [follow_of_redirects redirects]
      exact ⟨rfl, rfl, List.isChain_singleton start, by simp, start, rfl, .inr ⟨rfl, ⟨next, redirects⟩, rfl⟩⟩
    · rw [follow_of_ends ends]
      exact ⟨rfl, .single ends 0⟩
  | succ most ih =>
    rcases ends_or_redirects network start with ⟨next, redirects⟩ | ⟨result, ends⟩
    · obtain ⟨later, requests, trail⟩ := ih next
      rw [follow_of_redirects redirects]
      exact ⟨start :: later, congrArg _ requests, trail.cons redirects⟩
    · rw [follow_of_ends ends]
      exact ⟨[start], rfl, .single ends _⟩

theorem Trail.follow {most : Nat} {start : Address} {result : Except Trouble Bytes} {asked : List Address}
    (trail : Trail network most start asked result) :
    Web.follow network (most + 1) start = ⟨asked.map Address.text, result⟩ := by
  obtain ⟨starts, chain, short, last, final, ends⟩ := trail
  -- an answer leads to one address only, so what is followed can take no other way
  induction asked generalizing most start with
  | nil => cases starts
  | cons first rest ih =>
    cases starts
    cases rest with
    | nil =>
      obtain rfl : first = last := Option.some.inj final
      rcases ends with ends | ⟨full, ⟨next, redirects⟩, rfl⟩
      · exact follow_of_ends ends most
      · obtain rfl : most = 0 := by simpa using full.symm
        rw [follow_of_redirects redirects]
        rfl
    | cons second others =>
      obtain ⟨redirects, chain⟩ := List.isChain_cons_cons.1 chain
      rw [List.getLast?_cons_cons] at final
      cases most with
      | zero => simp at short
      | succ most =>
        have later := ih rfl chain (Nat.le_of_succ_le_succ short) final
          (ends.imp_right fun ⟨full, onward, spent⟩ => ⟨Nat.succ.inj full, onward, spent⟩)
        rw [follow_of_redirects redirects, later]
        rfl

theorem trail_of_loop (redirects : Redirects network asked asked) (most : Nat) :
    Trail network most asked (List.replicate (most + 1) asked) (.error (.problem .tooManyRedirects)) := by
  induction most with
  | zero => exact ⟨rfl, List.isChain_singleton asked, by simp, asked, rfl, .inr ⟨rfl, ⟨asked, redirects⟩, rfl⟩⟩
  | succ most ih => exact ih.cons redirects

/-! ### From a text -/

/-- Where a network is first asked for what lies at an address. -/
structure Begins (url : String) (start : Address) : Prop where
  parsed : ∃ address, Address.parse url = .ok address ∧
    start = if address.isAbsolute then address else address.rooted
  named : ∃ name, start.hostName = .ok name

/-- A text that is an address at which a network can be asked. -/
structure Opens (url : String) (start : Address) : Prop where
  parsed : Address.parse url = .ok start
  isAbsolute : start.isAbsolute = true
  named : ∃ name, start.hostName = .ok name

variable {url : String} {start address : Address} {fault : Fault}

theorem Opens.begins (opens : Opens url start) : Begins url start :=
  ⟨⟨start, opens.parsed, by rw [opens.isAbsolute]; rfl⟩, opens.named⟩

theorem mem_splitScheme {text : List Char} {c : Char} (member : c ∈ (splitScheme text).1) : isSchemeChar c = true := by
  have taken : c ∈ text.takeWhile isSchemeChar := by
    unfold splitScheme at member
    dsimp only at member
    split at member
    · split at member
      · exact member
      · exact absurd member List.not_mem_nil
    · exact absurd member List.not_mem_nil
  exact List.all_eq_true.1 (List.all_takeWhile) c taken

/-- A scheme has neither colons nor slashes. -/
theorem ne_of_isSchemeChar {c : Char} (is : isSchemeChar c = true) : c.toLower ≠ ':' ∧ c.toLower ≠ '/' := by
  unfold Char.toLower
  split
  · next upper =>
    have bounds : 65 ≤ c.val.toNat ∧ c.val.toNat ≤ 90 := upper
    have moved : (c.val + ('a'.val - 'A'.val)).toNat = c.val.toNat + 32 := by
      rw [UInt32.toNat_add]
      exact Nat.mod_eq_of_lt (show c.val.toNat + 32 < 4294967296 by omega)
    constructor
    · intro same
      have value : (c.val + ('a'.val - 'A'.val)).toNat = 58 := congrArg (fun letter => letter.val.toNat) same
      omega
    · intro same
      have value : (c.val + ('a'.val - 'A'.val)).toNat = 47 := congrArg (fun letter => letter.val.toNat) same
      omega
  · constructor <;> rintro rfl <;> cases is

theorem Address.scheme_of_ofParts {parts : Parts} (made : Address.ofParts parts = .ok start) :
    start.scheme = String.ofList (parts.scheme.toList.map Char.toLower) := by
  rw [Address.ofParts] at made
  obtain ⟨host, _, made⟩ := bind_eq_ok_iff.1 made
  obtain ⟨port, _, made⟩ := bind_eq_ok_iff.1 made
  obtain ⟨_, _, made⟩ := bind_eq_ok_iff.1 made
  cases made
  rfl

theorem Address.scheme_of_parse (parsed : Address.parse url = .ok start) :
    start.scheme = String.ofList ((splitScheme url.toList).1.map Char.toLower) := by
  unfold Address.parse at parsed
  split at parsed
  · cases parsed
  · split at parsed
    · cases parsed
    · rw [Address.scheme_of_ofParts parsed, Parts.ofText, String.toList_ofList]

theorem cutAt_append {separator : Char} {before : List Char} (plain : separator ∉ before) (rest : List Char) :
    Text.cutAt separator (before ++ separator :: rest) = (before, some rest) := by
  induction before with
  | nil => rw [List.nil_append, Text.cutAt, if_pos rfl]
  | cons c before ih =>
    obtain ⟨first, others⟩ := not_or.1 (mt List.mem_cons.2 plain)
    rw [List.cons_append, Text.cutAt, if_neg (Ne.symm first), ih others]

/-- An address at which a network can be asked says how to get there. -/
theorem Opens.saysKind (opens : Opens url start) : Web.saysKind start.text = true := by
  have scheme := Address.scheme_of_parse opens.parsed
  have some : start.scheme ≠ "" := by
    have absolute := opens.isAbsolute
    intro none
    rw [Address.isAbsolute, none] at absolute
    cases absolute
  have plain (c : Char) (member : c ∈ start.scheme.toList) : c ≠ ':' ∧ c ≠ '/' := by
    rw [scheme, String.toList_ofList] at member
    obtain ⟨letter, among, rfl⟩ := List.mem_map.1 member
    exact ne_of_isSchemeChar (mem_splitScheme among)
  obtain ⟨rest, text⟩ : ∃ rest, start.text = start.scheme ++ ":" ++ rest := by
    rw [Address.text, if_neg some]
    simp only [String.append_assoc]
    exact ⟨_, rfl⟩
  have text : start.text.toList = start.scheme.toList ++ ':' :: rest.toList := by
    rw [text, String.toList_append, String.toList_append, List.append_assoc]
    rfl
  have cut := cutAt_append (fun member => (plain ':' member).1 rfl) rest.toList
  have filled : start.scheme.toList.isEmpty = false := by
    rw [List.isEmpty_eq_false_iff]
    exact fun none => some (String.toList_inj.1 none)
  have noSlash : start.scheme.toList.contains '/' = false := by
    rw [List.contains_eq_mem, decide_eq_false_iff_not]
    exact fun member => (plain '/' member).2 rfl
  rw [Web.saysKind, text, cut]
  simp only [filled, noSlash, Bool.not_false, Bool.and_self]

theorem fetch_of_begins (begins : Begins url start) (network : Network) :
    fetch network url = follow network (mostRedirects + 1) start := by
  obtain ⟨⟨address, parsed, rfl⟩, name, named⟩ := begins
  rw [fetch, parsed]
  simp only [hostName, named]
  rfl

theorem fetch_of_malformed {fault : AddressFault} (refused : Address.parse url = .error fault)
    (network : Network) : fetch network url = ⟨[], .error (.fault (.address fault))⟩ := by
  rw [fetch, refused]

theorem fetch_of_unnamed {fault : NameFault} (parsed : Address.parse url = .ok address)
    (absolute : address.isAbsolute = true) (unread : address.hostName = .error fault) (network : Network) :
    fetch network url = ⟨[], .error (.fault (.hostName fault))⟩ := by
  rw [fetch, parsed]
  simp only [absolute, if_true, hostName, unread]
  rfl

theorem hostName_rooted (address : Address) : address.rooted.hostName = .ok "" := by
  have plain : decodeHost "" = .ok "" := decodeHost_of_plain (by decide)
  exact plain

theorem begins_cases (url : String) :
    (∃ fault, Address.parse url = .error fault) ∨
      (∃ address fault, Address.parse url = .ok address ∧ address.isAbsolute = true ∧
        address.hostName = .error fault) ∨
      ∃ start, Begins url start := by
  cases parsed : Address.parse url with
  | error fault => exact .inl ⟨fault, rfl⟩
  | ok address =>
    cases absolute : address.isAbsolute with
    | false =>
      -- nothing is asked of a host here, so there is no name to read
      exact .inr (.inr ⟨_, ⟨address, parsed, by rw [absolute]; rfl⟩, "", hostName_rooted address⟩)
    | true =>
      cases named : address.hostName with
      | error fault => exact .inr (.inl ⟨address, fault, rfl, absolute, named⟩)
      | ok name => exact .inr (.inr ⟨address, ⟨address, parsed, by rw [absolute]; rfl⟩, name, named⟩)

/-- An address that cannot be asked for, or from which answers lead to something that is at fault: a header
that is not ASCII, an address that does not say how to get there, or one that cannot be made out. -/
inductive Astray (network : Network) (url : String) : Fault → Prop where
  | malformed {fault : AddressFault} (refused : Address.parse url = .error fault) :
      Astray network url (.address fault)
  | unnamed {address : Address} {fault : NameFault} (parsed : Address.parse url = .ok address)
      (absolute : address.isAbsolute = true) (unread : address.hostName = .error fault) :
      Astray network url (.hostName fault)
  | misled {start : Address} {asked : List Address} {fault : Fault} (begins : Begins url start)
      (trail : Trail network mostRedirects start asked (.error (.fault fault))) : Astray network url fault

theorem fetch_fault_iff : (fetch network url).result = .error (.fault fault) ↔ Astray network url fault := by
  constructor
  · intro ended
    rcases begins_cases url with ⟨wrong, refused⟩ | ⟨address, wrong, parsed, absolute, unread⟩ | ⟨start, begins⟩
    · rw [fetch_of_malformed refused] at ended
      cases ended
      exact .malformed refused
    · rw [fetch_of_unnamed parsed absolute unread] at ended
      cases ended
      exact .unnamed parsed absolute unread
    · rw [fetch_of_begins begins] at ended
      obtain ⟨asked, _, trail⟩ := trail_follow network mostRedirects start
      exact .misled begins (ended ▸ trail)
  · intro astray
    cases astray with
    | malformed refused => rw [fetch_of_malformed refused]
    | unnamed parsed absolute unread => rw [fetch_of_unnamed parsed absolute unread]
    | misled begins trail => rw [fetch_of_begins begins, trail.follow]

end Bookbinder.Web
