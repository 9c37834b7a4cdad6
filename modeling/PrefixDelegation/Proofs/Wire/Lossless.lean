import Mathlib.Tactic.Common
import Mathlib.Tactic.IntervalCases
import PrefixDelegation.Proofs.Wire.Writing

/-!
# Reading loses nothing

A datagram is a message exactly if it has the header of one: four octets, of which the first is the
number of a type that a client and a server exchange (`HasHeader`). Nothing behind the header can
keep it from being read, since octets that make no option become the tail of the message.

What was read holds the datagram, octet by octet (`Message.Holds`): the header gives type and
transaction identifier, and behind it stand the options, one behind the other, and then the tail.
The options end only where they have to (`Wire.Chain.Exhausts`): a raw tail is one from which no
option can be read, padding follows an option that ends its chain, and no option before the last one
is of that kind.

`Message.decode_exact` puts this together. What it says of the options is about chains alone, and
follows the recursion that reads them (`Wire.Chain.read_exhausts`).
-/

namespace PrefixDelegation

/-! ### Types by number -/

/-- The numbers of the types that a client and a server exchange. -/
def IsExchanged (number : Nat) : Prop := (1 ≤ number ∧ number ≤ 11) ∨ number = 14 ∨ number = 15

instance (number : Nat) : Decidable (IsExchanged number) :=
  inferInstanceAs (Decidable ((1 ≤ number ∧ number ≤ 11) ∨ number = 14 ∨ number = 15))

namespace MessageType

/-- A type is the one with its number. -/
@[simp] theorem ofNat?_toNat (type : MessageType) : ofNat? type.toNat = some type := by
  cases type <;> rfl

/-- The type with a number has that number. -/
theorem toNat_of_ofNat? {n : Nat} {type : MessageType} (h : ofNat? n = some type) :
    type.toNat = n := by
  obtain ⟨hn, rfl⟩ := List.getElem?_eq_some_iff.mp h
  have hlt : n < 16 := hn
  clear h
  interval_cases n <;> rfl

/-- There are sixteen types. -/
theorem lt_of_ofNat?_eq_none {n : Nat} (h : ofNat? n = Option.none) : 15 < n := by
  have hlength : all.length ≤ n := List.getElem?_eq_none_iff.mp h
  exact hlength

/-- All types are exchanged but for the one that is none and those for relays. -/
theorem isExchanged_toNat_iff (type : MessageType) :
    IsExchanged type.toNat ↔ type ≠ .none ∧ type.isRelay = false := by
  cases type <;> decide

end MessageType

namespace Wire

/-! ### Chains -/

/-- No option can be read from the front of some octets: there are too few of them, or the option
holds too many others. -/
def IsUnreadable (bs : Octets) : Prop := ∀ n, extent? bs = some n → isCrowded bs n

/-- A chain divides some octets, and has as many options as there can be. -/
structure Chain.Exhausts (bs : Octets) (c : Chain) : Prop where
  /-- The octets are the options, one behind the other, and then the tail. -/
  octets_eq : c.options.flatten ++ c.tail.octets = bs
  /-- An option has a header. -/
  four_le : ∀ o ∈ c.options, 4 ≤ o.length
  /-- An option takes what its layout says, of the octets from its own place on. -/
  takes : ∀ before o after, c.options = before ++ o :: after →
    extent? (o ++ after.flatten ++ c.tail.octets) = some o.length
  /-- A tail is not empty. -/
  tail_ne_nil : c.tail ≠ .nothing → c.tail.octets ≠ []
  /-- Raw octets are none from which an option could be read. -/
  raw : ∀ rest, c.tail = .raw rest → IsUnreadable rest
  /-- Padding stands behind an option that ends the chain. -/
  padding : ∀ rest, c.tail = .padding rest → ∃ o ∈ c.options.getLast?, endsChain (codeOf o)
  /-- No option before the last one ends the chain. -/
  goes_on : ∀ o ∈ c.options.dropLast, ¬ endsChain (codeOf o)

/-- What is left when no option can be read is raw, and the whole of it. -/
theorem Chain.exhausts_ofRaw {bs : Octets} (h : IsUnreadable bs) :
    Chain.Exhausts bs ⟨[], .ofRaw bs⟩ := by
  cases bs with
  | nil =>
    exact {
      octets_eq := rfl
      four_le := by simp
      takes := by simp
      tail_ne_nil := fun hne => absurd rfl hne
      raw := by simp [Tail.ofRaw]
      padding := by simp [Tail.ofRaw]
      goes_on := by simp }
  | cons b bs =>
    exact {
      octets_eq := rfl
      four_le := by simp
      takes := by simp
      tail_ne_nil := by simp [Tail.ofRaw, Tail.octets]
      raw := by
        rintro rest hrest
        cases hrest
        exact h
      padding := by simp [Tail.ofRaw]
      goes_on := by simp }

section Front

variable {bs : Octets} {n : Nat} (h : extent? bs = some n)
include h

/-- What an option takes is as long as it says. -/
theorem length_take_extent : (bs.take n).length = n := by
  have hn := extent?_bounds h
  rw [List.length_take, Nat.min_eq_left hn.2]

/-- What an option takes has its code. -/
theorem codeOf_take_extent : codeOf (bs.take n) = codeOf bs := by
  have hn := extent?_bounds h
  rw [codeOf, List.take_take, Nat.min_eq_left (by omega), codeOf]

/-- An option that ends the chain leaves padding. -/
theorem Chain.exhausts_ofPadding (hends : endsChain (codeOf bs)) :
    Chain.Exhausts bs ⟨[bs.take n], .ofPadding (bs.drop n)⟩ := by
  have hn := extent?_bounds h
  have htail : (Tail.ofPadding (bs.drop n)).octets = bs.drop n := by
    unfold Tail.ofPadding
    split
    · next hempty => exact (List.isEmpty_iff.mp hempty).symm
    · rfl
  exact {
    octets_eq := by
      rw [List.flatten_singleton, htail, List.take_append_drop]
    four_le := by
      intro o ho
      rw [List.mem_singleton.mp ho, length_take_extent h]
      exact hn.1
    takes := by
      intro before o after heq
      -- there is one option only
      obtain ⟨rfl, rfl, rfl⟩ : before = [] ∧ o = bs.take n ∧ after = [] := by
        simpa using List.append_eq_singleton_iff.mp heq.symm
      rw [List.flatten_nil, List.append_nil, htail, List.take_append_drop, length_take_extent h]
      exact h
    tail_ne_nil := by
      intro hne
      rw [htail]
      rintro hnil
      simp [Tail.ofPadding, hnil] at hne
    raw := by
      intro rest hrest
      unfold Tail.ofPadding at hrest
      split at hrest <;> cases hrest
    padding := by
      intro rest _
      exact ⟨bs.take n, rfl, by rw [codeOf_take_extent h]; exact hends⟩
    goes_on := by simp }

/-- An option that does not end the chain goes before what is read behind it. -/
theorem Chain.exhausts_cons (hends : ¬ endsChain (codeOf bs)) {c : Chain}
    (hc : c.Exhausts (bs.drop n)) : Chain.Exhausts bs ⟨bs.take n :: c.options, c.tail⟩ := by
  have hn := extent?_bounds h
  exact {
    octets_eq := by
      rw [List.flatten_cons, List.append_assoc, hc.octets_eq, List.take_append_drop]
    four_le := by
      intro o ho
      rcases List.mem_cons.mp ho with rfl | ho'
      · rw [length_take_extent h]
        exact hn.1
      · exact hc.four_le o ho'
    takes := by
      intro before o after heq
      rcases List.cons_eq_append_iff.mp heq with ⟨rfl, heq'⟩ | ⟨before', rfl, heq'⟩
      · -- the option at the front, with all that follows it
        obtain ⟨rfl, rfl⟩ := List.cons_eq_cons.mp heq'
        rw [List.append_assoc, hc.octets_eq, List.take_append_drop, length_take_extent h]
        exact h
      · exact hc.takes before' o after heq'
    tail_ne_nil := hc.tail_ne_nil
    raw := hc.raw
    padding := by
      intro rest hrest
      obtain ⟨o, ho, hcode⟩ := hc.padding rest hrest
      refine ⟨o, ?_, hcode⟩
      rw [List.getLast?_cons, Option.mem_def.mp ho]
      rfl
    goes_on := by
      intro o ho
      rcases hnil : c.options with _ | ⟨o', os⟩
      · simp [hnil] at ho
      · rw [hnil, List.dropLast_cons_of_ne_nil (List.cons_ne_nil o' os), ← hnil] at ho
        rcases List.mem_cons.mp ho with rfl | ho'
        · rw [codeOf_take_extent h]
          exact hends
        · exact hc.goes_on o ho' }

end Front

/-- **A chain that was read exhausts its octets.** -/
theorem Chain.read_exhausts (bs : Octets) : (Chain.read bs).Exhausts bs := by
  fun_induction Chain.read bs with
  | case1 bs h =>
    -- there are too few octets for an option
    apply Chain.exhausts_ofRaw
    intro n hn
    rw [h] at hn
    cases hn
  | case2 bs n h crowded =>
    -- the option holds too many others
    apply Chain.exhausts_ofRaw
    intro n' hn'
    rw [h, Option.some.injEq] at hn'
    exact hn' ▸ crowded
  | case3 bs n h crowded ends => exact Chain.exhausts_ofPadding h ends
  | case4 bs n h crowded ends rest ih => exact Chain.exhausts_cons h ends ih

end Wire

/-! ### Datagrams -/

/-- A datagram has the header of a message between a client and a server. -/
def HasHeader (data : Octets) : Prop :=
  4 ≤ data.length ∧ ∃ t, data.head? = some t ∧ IsExchanged t.toNat

/-- What a decoding error says of a datagram. -/
def DecodeError.Fits (data : Octets) : DecodeError → Prop
  | .tooShort length => length = data.length ∧ data.length < 4
  | .unknownType number => data.head?.map UInt8.toNat = some number ∧ 15 < number
  | .reservedType => data.head? = some 0
  | .relayed type => type.isRelay ∧ data.head?.map UInt8.toNat = some type.toNat

namespace Message

open Wire

/-- A message holds a datagram: it is written as the datagram was, and its parts are found there,
each in its place. -/
structure Holds (data : Octets) (m : Message) : Prop where
  /-- The first octet is the number of the type. -/
  type_eq : data.head?.map UInt8.toNat = some m.type.toNat
  /-- The transaction identifier is in the three octets behind it. -/
  xid_eq : m.xid.val = Octets.toNat ((data.drop 1).take 3)
  /-- Writing the message gives the datagram back. -/
  encode_eq : m.encode = .ok data
  /-- The options, and then the tail, are what stands behind the header. -/
  chain : Chain.Exhausts (data.drop 4) ⟨m.options.map (·.octets), m.tail⟩
  /-- Nothing stands behind the tail. -/
  hidden_eq : m.hidden = []
  /-- An option starts with its code. -/
  code_eq : ∀ o ∈ m.options, o.octets.take 2 = Octets.ofNat 2 o.code

/-- A message with nothing behind its tail consists of its parts. -/
theorem octets_of_hidden_nil {m : Message} (h : m.hidden = []) :
    m.octets = UInt8.ofNat m.type.toNat :: (Octets.ofNat 3 m.xid.val ++
      (optionOctets m.options ++ m.tail.octets)) := by
  have hnone : optionOctets m.hidden = [] := by
    rw [h]
    rfl
  rw [octets, hnone]
  cases m.tail <;> simp [Tail.octets]

section Header

variable (t a b c : UInt8) (rest : Octets)

/-- The message with four octets in front of a chain. -/
def headed (type : MessageType) : Message :=
  ⟨type, .ofNat (Octets.toNat [a, b, c]), (Chain.read rest).options.map .ofRead,
    (Chain.read rest).tail, []⟩

variable {t}

/-- A datagram with the number of an exchanged type is read, whatever stands behind its header. -/
theorem decode_of_isExchanged {type : MessageType} (h : MessageType.ofNat? t.toNat = some type)
    (hexchanged : IsExchanged type.toNat) :
    decode (t :: a :: b :: c :: rest) = .ok (headed a b c rest type) := by
  obtain ⟨hnone, hrelay⟩ := type.isExchanged_toNat_iff.mp hexchanged
  simp only [decode, h, if_neg hnone, hrelay, Bool.false_eq_true, if_false, headed]

/-- A datagram with any other number is not read, and the error says why. -/
theorem decode_of_not_isExchanged (h : ¬ IsExchanged t.toNat) :
    ∃ e, decode (t :: a :: b :: c :: rest) = .error e ∧ e.Fits (t :: a :: b :: c :: rest) := by
  cases htype : MessageType.ofNat? t.toNat with
  | none =>
    -- there is no type with that number
    have hlt := MessageType.lt_of_ofNat?_eq_none htype
    exact ⟨.unknownType t.toNat, by simp only [decode, htype], rfl, hlt⟩
  | some type =>
    have hnumber := MessageType.toNat_of_ofNat? htype
    rw [← hnumber, type.isExchanged_toNat_iff] at h
    by_cases hnone : type = .none
    · have ht : t = 0 := by
        apply UInt8.toNat_inj.mp
        rw [← hnumber, hnone]
        rfl
      exact ⟨.reservedType, by simp only [decode, htype, if_pos hnone], congrArg some ht⟩
    · -- what is left are the types for relays
      have hrelay : type.isRelay = true := by
        by_contra hrelay
        exact h ⟨hnone, Bool.not_eq_true _ ▸ hrelay⟩
      exact ⟨.relayed type, by simp only [decode, htype, if_neg hnone, if_pos hrelay], hrelay,
        congrArg some hnumber.symm⟩

/-- The message that is read holds the datagram. -/
theorem headed_holds {type : MessageType} (h : type.toNat = t.toNat) :
    (headed a b c rest type).Holds (t :: a :: b :: c :: rest) := by
  have hchain := Chain.read_exhausts rest
  have hoctets : (headed a b c rest type).options.map (·.octets) = (Chain.read rest).options := by
    rw [headed, List.map_map]
    exact List.map_id _
  have hxid : (headed a b c rest type).xid.val = Octets.toNat [a, b, c] := by
    have hlt : Octets.toNat [a, b, c] < 256 ^ 3 := Octets.toNat_lt [a, b, c]
    rw [headed, TransactionId.ofNat]
    exact Nat.mod_eq_of_lt (by omega)
  exact {
    type_eq := congrArg some h.symm
    xid_eq := hxid
    encode_eq := by
      -- the header is written as it was read, and behind it there is the chain
      have htype : UInt8.ofNat (headed a b c rest type).type.toNat = t := by
        rw [headed, h, UInt8.ofNat_toNat]
      have hwritten : Octets.ofNat 3 (Octets.toNat [a, b, c]) = [a, b, c] :=
        Octets.ofNat_toNat [a, b, c]
      have hbody : optionOctets (headed a b c rest type).options ++ (Chain.read rest).tail.octets
          = rest := by
        rw [optionOctets, List.flatMap_def, hoctets, hchain.octets_eq]
      have hwritable : (headed a b c rest type).IsWritable := by
        simp [IsWritable, headed]
      rw [hwritable.encode_eq, octets_of_hidden_nil rfl, htype, hxid, hwritten]
      exact congrArg (fun body => Except.ok (t :: a :: b :: c :: body)) hbody
    chain := by
      rw [hoctets]
      exact hchain
    hidden_eq := rfl
    code_eq := by
      intro o ho
      obtain ⟨octets, hmem, rfl⟩ := List.mem_map.mp ho
      have hlength : (octets.take 2).length = 2 := by
        rw [List.length_take, Nat.min_eq_left (by have := hchain.four_le octets hmem; omega)]
      have hcode := Octets.ofNat_toNat (octets.take 2)
      rw [hlength] at hcode
      exact hcode.symm }

end Header

/-- What holds a datagram can be written. -/
theorem Holds.isWritable {data : Octets} {m : Message} (h : m.Holds data) : m.IsWritable :=
  (encode_eq_ok_iff.mp h.encode_eq).1

/-- A datagram has a header and is read, or it has none and is not. -/
theorem decode_cases (data : Octets) :
    (HasHeader data ∧ ∃ m, decode data = .ok m ∧ m.Holds data) ∨
      (¬ HasHeader data ∧ ∃ e, decode data = .error e ∧ e.Fits data) := by
  match data with
  | t :: a :: b :: c :: rest =>
    by_cases hexchanged : IsExchanged t.toNat
    · -- the number is that of an exchanged type
      obtain ⟨type, htype⟩ : ∃ type, MessageType.ofNat? t.toNat = some type := by
        rw [← Option.ne_none_iff_exists']
        intro hnone
        have hlt := MessageType.lt_of_ofNat?_eq_none hnone
        unfold IsExchanged at hexchanged
        omega
      have hnumber := MessageType.toNat_of_ofNat? htype
      refine .inl ⟨⟨by simp, t, rfl, hexchanged⟩, _, ?_, headed_holds a b c rest hnumber⟩
      exact decode_of_isExchanged a b c rest htype (hnumber ▸ hexchanged)
    · -- the number is that of another type, or of none
      refine .inr ⟨?_, decode_of_not_isExchanged a b c rest hexchanged⟩
      rintro ⟨-, t', ht', hexchanged'⟩
      obtain rfl := Option.some.inj ht'
      exact hexchanged hexchanged'
  | [] | [_] | [_, _] | [_, _, _] =>
    -- there are too few octets for a header
    refine .inr ⟨?_, _, rfl, rfl, by simp⟩
    rintro ⟨hlength, -⟩
    simp at hlength

/-- What was read can be written. -/
theorem isWritable_of_decode {data : Octets} {m : Message} (h : decode data = .ok m) :
    m.IsWritable := by
  rcases decode_cases data with ⟨-, m', hm', hholds⟩ | ⟨-, e, he, -⟩
  · obtain rfl := Except.ok.inj (h.symm.trans hm')
    exact hholds.isWritable
  · rw [h] at he
    cases he

/-- **Reading is exact.** A datagram is read if and only if it has the header of a message, and what
is read then holds the datagram octet by octet. Otherwise there is an error, which says what is wrong
with the header. -/
theorem decode_exact (data : Octets) :
    ((∃ m, decode data = .ok m) ↔ HasHeader data) ∧
      (∀ m, decode data = .ok m → m.Holds data) ∧
      (¬ HasHeader data → ∃ e, decode data = .error e ∧ e.Fits data) := by
  rcases decode_cases data with ⟨hheader, m, hm, hholds⟩ | ⟨hheader, e, he, hfits⟩
  · rw [hm]
    refine ⟨⟨fun _ => hheader, fun _ => ⟨m, rfl⟩⟩, ?_, fun h => absurd hheader h⟩
    rintro m' ⟨⟩
    exact hholds
  · rw [he]
    refine ⟨⟨?_, fun h => absurd h hheader⟩, ?_, fun _ => ⟨e, rfl, hfits⟩⟩
    · rintro ⟨m, ⟨⟩⟩
    · rintro m ⟨⟩

end Message

end PrefixDelegation
