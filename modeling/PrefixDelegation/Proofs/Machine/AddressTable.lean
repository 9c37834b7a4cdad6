import Mathlib.Logic.Relation
import PrefixDelegation.Machine
import PrefixDelegation.Proofs.Address.HexText
import PrefixDelegation.Proofs.Text.Words

/-!
# The link-local address of an interface

The table of addresses is read by its words and digits. What a line has to be is said here without
the reader: it has six words or more, the sixth is the interface, and the first is 32 digits of an
address in `fe80::/10` (`Machine.Qualifies`). The reader looks at three digits, which stand for
twelve bits of which ten are certain; `Machine.startsLinkLocal_iff` says that these ten are the ones
that tell.

The address that is found is that of the first line that qualifies, and none is found exactly where
no line does (`Machine.linkLocalAddress_first`). Lines of other interfaces, and lines that are too
short, may come and go and change places (`Machine.Edit`): what is found stays the same.
-/

namespace PrefixDelegation

open Text Address

namespace Machine

/-- **The first three digits tell a link-local address**, which has ten certain bits at its front. -/
theorem startsLinkLocal_iff {digits : List Char} {address : Nat} (hlen : digits.length = 32)
    (h : hexValue? digits = some address) :
    startsLinkLocal digits = true ↔ address / 2 ^ 118 = 0b1111111010 := by
  have hlt : address < 16 ^ 32 := hlen ▸ hexValue?_lt h
  have hfront : (digits.take 3).map Char.toLower = fixed 16 3 (address / 16 ^ 29) := by
    rw [List.map_take, map_toLower_eq_fixed h, hlen]
    exact take_fixed 16 3 29 address
  have hfront_lt : address / 16 ^ 29 < 16 ^ 3 := Nat.div_lt_of_lt_mul hlt
  have hbits : address / 2 ^ 118 = address / 16 ^ 29 / 4 :=
    (Nat.div_div_eq_div_mul address (16 ^ 29) 4).symm
  have hstart : ∀ n, n < 16 ^ 3 →
      ((fixed 16 3 n == (digits.take 3).map Char.toLower) = true ↔ n = address / 16 ^ 29) := by
    intro n hn
    rw [beq_iff_eq, hfront, fixed_inj hn hfront_lt]
  have hstarts : ["fe8", "fe9", "fea", "feb"].map String.toList
      = [fixed 16 3 0xfe8, fixed 16 3 0xfe9, fixed 16 3 0xfea, fixed 16 3 0xfeb] := by decide
  have hany : (["fe8", "fe9", "fea", "feb"].any fun start =>
      start.toList == (digits.take 3).map Char.toLower)
        = (["fe8", "fe9", "fea", "feb"].map String.toList).any
          (· == (digits.take 3).map Char.toLower) := by
    rw [List.any_map]
    rfl
  rw [startsLinkLocal, hlen, hany, hstarts, hbits]
  simp only [beq_self_eq_true, Bool.true_and, List.any_cons, List.any_nil, Bool.or_false,
    Bool.or_eq_true]
  rw [hstart _ (by decide), hstart _ (by decide), hstart _ (by decide), hstart _ (by decide)]
  omega

variable {interface : String} {line digits : List Char} {address : Nat}

/-! ### Lines of the table -/

/-- A line that belongs to an interface: of its words the sixth is the interface, and the first stands
for an address. -/
def IsEntry (interface : String) (line digits : List Char) : Prop :=
  ∃ index length scope flags more,
    Separated line (digits :: index :: length :: scope :: flags :: interface.toList :: more)

/-- A line that does not belong to an interface: it has fewer than six words, or the sixth is something
else. -/
def IsForeign (interface : String) (line : List Char) : Prop :=
  ∃ fields, Separated line fields ∧ fields[5]? ≠ some interface.toList

/-- **A line that qualifies**: it belongs to the interface, and has 32 digits of a link-local
address. -/
structure Qualifies (interface : String) (line : List Char) (address : Nat) : Prop where
  entry : ∃ digits, IsEntry interface line digits ∧ digits.length = 32 ∧
    hexValue? digits = some address
  /-- The address is one of `fe80::/10`. -/
  linkLocal : address / 2 ^ 118 = 0b1111111010

/-- The digits on a line are those of its entry. -/
theorem addressDigits?_eq_some :
    addressDigits? interface line = some digits ↔ IsEntry interface line digits := by
  unfold addressDigits? IsEntry
  simp only [← words_eq_iff]
  constructor
  · intro h
    split at h
    · next heq =>
      split at h
      · next hname =>
        obtain rfl := Option.some.inj h
        exact ⟨_, _, _, _, _, hname ▸ heq⟩
      · cases h
    · cases h
  · rintro ⟨index, length, scope, flags, more, h⟩
    rw [h]
    exact if_pos rfl

/-- A foreign line has no digits that count. -/
theorem addressDigits?_eq_none : addressDigits? interface line = none ↔ IsForeign interface line := by
  unfold addressDigits? IsForeign
  simp only [← words_eq_iff, exists_eq_left']
  split
  · next heq =>
    rw [heq]
    simp
  · next hshort =>
    -- with a sixth word there are six words, and the case before applies
    refine iff_of_true rfl fun hsixth => ?_
    obtain ⟨hlt, -⟩ := List.getElem?_eq_some_iff.mp hsixth
    match hwords : words line, hlt with
    | a :: b :: c :: d :: e :: name :: more, _ => exact hshort a b c d e name more hwords

/-! ### What is found -/

/-- The digits of a line that have the length of an address and start like a link-local one. -/
def localDigits? (interface : String) (line : List Char) : Option (List Char) :=
  (addressDigits? interface line).filter startsLinkLocal

/-- The search looks at each line by itself. -/
theorem linkLocalDigits_eq (table interface : String) :
    linkLocalDigits table interface = (lines table.toList).filterMap (localDigits? interface) :=
  List.filter_filterMap

theorem localDigits?_eq_some : localDigits? interface line = some digits ↔
    IsEntry interface line digits ∧ startsLinkLocal digits = true := by
  rw [localDigits?, Option.filter_eq_some_iff, addressDigits?_eq_some]

/-- A foreign line has nothing that is looked for. -/
theorem IsForeign.localDigits?_eq_none (h : IsForeign interface line) :
    localDigits? interface line = none := by
  rw [localDigits?, addressDigits?_eq_none.mpr h, Option.filter_none]

/-- **A line that qualifies has the digits of its address.** -/
theorem Qualifies.localDigits?_eq_some (h : Qualifies interface line address) :
    ∃ digits, localDigits? interface line = some digits ∧ digits.length = 32 ∧
      hexValue? digits = some address := by
  obtain ⟨digits, hentry, hlen, hvalue⟩ := h.entry
  have hstarts := (startsLinkLocal_iff hlen hvalue).mpr h.linkLocal
  exact ⟨digits, Machine.localDigits?_eq_some.mpr ⟨hentry, hstarts⟩, hlen, hvalue⟩

/-- The addresses of an interface in a table, where they have the length of one, are written in
hexadecimal digits. -/
def IsHexadecimal (interface : String) (table : List (List Char)) : Prop :=
  ∀ line ∈ table, ∀ digits, IsEntry interface line digits → digits.length = 32 →
    ∃ address, hexValue? digits = some address

/-- No line of a table qualifies. -/
def NoneQualifies (interface : String) (table : List (List Char)) : Prop :=
  ∀ line ∈ table, ∀ address, ¬ Qualifies interface line address

/-- **The address on the first line that qualifies.** -/
def FirstQualifies (interface : String) (table : List (List Char)) (address : Nat) : Prop :=
  ∃ before line after, table = before ++ line :: after ∧ Qualifies interface line address ∧
    NoneQualifies interface before

variable {table before : List (List Char)}

/-- **Where no line qualifies, nothing is found**, if the addresses are hexadecimal. -/
theorem filterMap_localDigits?_eq_nil (hhex : IsHexadecimal interface table) :
    table.filterMap (localDigits? interface) = [] ↔ NoneQualifies interface table := by
  rw [List.filterMap_eq_nil_iff]
  refine forall₂_congr fun line hline => ⟨fun h address hqualifies => ?_, fun h => ?_⟩
  · obtain ⟨digits, hdigits, -⟩ := hqualifies.localDigits?_eq_some
    rw [h] at hdigits
    cases hdigits
  · -- digits that are found have the length of an address, and denote one
    by_contra hne
    obtain ⟨digits, hdigits⟩ := Option.ne_none_iff_exists'.mp hne
    obtain ⟨hentry, hstarts⟩ := localDigits?_eq_some.mp hdigits
    have hlen : digits.length = 32 := by
      rw [startsLinkLocal, Bool.and_eq_true, beq_iff_eq] at hstarts
      exact hstarts.1
    obtain ⟨address, hvalue⟩ := hhex line hline digits hentry hlen
    exact h address ⟨⟨digits, hentry, hlen, hvalue⟩, (startsLinkLocal_iff hlen hvalue).mp hstarts⟩

variable {m : Machine} {text : String}

/-- Digits of an address give its text. -/
theorem linkLocalAddress_of_digits {rest : List (List Char)} (htable : m.addressTable = some text)
    (h : linkLocalDigits text interface = digits :: rest) (hlen : digits.length = 32)
    (hvalue : hexValue? digits = some address) :
    m.linkLocalAddress interface = .ok (writeIpv6 address) := by
  obtain ⟨octets, hread, rfl⟩ :=
    Octets.exists_ofHex? (show digits.length = 2 * 16 from hlen) hvalue
  unfold linkLocalAddress
  simp only [htable, h, hread]
  rfl

/-- **The first line that qualifies is found.** -/
theorem linkLocalAddress_of_firstQualifies (htable : m.addressTable = some text)
    (hhex : IsHexadecimal interface (lines text.toList))
    (h : FirstQualifies interface (lines text.toList) address) :
    m.linkLocalAddress interface = .ok (writeIpv6 address) := by
  obtain ⟨before, line, after, hlines, hqualifies, hnone⟩ := h
  obtain ⟨digits, hdigits, hlen, hvalue⟩ := hqualifies.localDigits?_eq_some
  have hhex_before : IsHexadecimal interface before := by
    intro line hline
    exact hhex line (hlines ▸ List.mem_append_left _ hline)
  have hfound : linkLocalDigits text interface
      = digits :: after.filterMap (localDigits? interface) := by
    rw [linkLocalDigits_eq, hlines, List.filterMap_append,
      (filterMap_localDigits?_eq_nil hhex_before).mpr hnone, List.nil_append,
      List.filterMap_cons_some hdigits]
  exact linkLocalAddress_of_digits htable hfound hlen hvalue

/-- Without a line that qualifies, the search fails. -/
theorem linkLocalAddress_of_noneQualifies (htable : m.addressTable = some text)
    (hhex : IsHexadecimal interface (lines text.toList))
    (h : NoneQualifies interface (lines text.toList)) :
    m.linkLocalAddress interface = .error (.negotiation (.transport (.noLinkLocal interface))) := by
  have hnone : linkLocalDigits text interface = [] := by
    rw [linkLocalDigits_eq]
    exact (filterMap_localDigits?_eq_nil hhex).mpr h
  unfold linkLocalAddress
  simp only [htable, hnone]

/-- Either no line qualifies, or a first one does. -/
theorem noneQualifies_or (interface : String) (table : List (List Char)) :
    NoneQualifies interface table ∨ ∃ address, FirstQualifies interface table address := by
  induction table with
  | nil => exact .inl fun line hline => absurd hline List.not_mem_nil
  | cons line table ih =>
    by_cases hfirst : ∃ address, Qualifies interface line address
    · obtain ⟨address, hqualifies⟩ := hfirst
      exact .inr ⟨address, [], line, table, rfl, hqualifies,
        fun line hline => absurd hline List.not_mem_nil⟩
    rw [not_exists] at hfirst
    rcases ih with hnone | ⟨address, before, next, after, rfl, hqualifies, hnone⟩
    · exact .inl (List.forall_mem_cons.mpr ⟨hfirst, hnone⟩)
    · exact .inr ⟨address, line :: before, next, after, rfl, hqualifies,
        List.forall_mem_cons.mpr ⟨hfirst, hnone⟩⟩

/-! ### Lines that make no difference -/

/-- **An edit of a table** that does not touch the lines of an interface: a foreign line comes, goes, or
changes its place. -/
inductive Edit (interface : String) : List (List Char) → List (List Char) → Prop
  | insert {line : List Char} (foreign : IsForeign interface line)
      (before after : List (List Char)) :
      Edit interface (before ++ after) (before ++ line :: after)
  | delete {line : List Char} (foreign : IsForeign interface line)
      (before after : List (List Char)) :
      Edit interface (before ++ line :: after) (before ++ after)
  /-- A line goes behind others that it stood before. -/
  | later {line : List Char} (foreign : IsForeign interface line)
      (before passed after : List (List Char)) :
      Edit interface (before ++ line :: (passed ++ after)) (before ++ (passed ++ line :: after))
  /-- A line goes before others that it stood behind. -/
  | earlier {line : List Char} (foreign : IsForeign interface line)
      (before passed after : List (List Char)) :
      Edit interface (before ++ (passed ++ line :: after)) (before ++ line :: (passed ++ after))

/-- An edit leaves what is found. -/
theorem Edit.filterMap_eq {table' : List (List Char)} (h : Edit interface table table') :
    table'.filterMap (localDigits? interface) = table.filterMap (localDigits? interface) := by
  cases h with
  | insert foreign | delete foreign | later foreign | earlier foreign =>
    simp only [List.filterMap_append, List.filterMap_cons_none foreign.localDigits?_eq_none]

/-- **Edits leave what is found.** -/
theorem filterMap_eq_of_edits {table' : List (List Char)}
    (h : Relation.ReflTransGen (Edit interface) table table') :
    table'.filterMap (localDigits? interface) = table.filterMap (localDigits? interface) := by
  induction h with
  | refl => rfl
  | tail _ hedit ih => exact hedit.filterMap_eq.trans ih

/-- The answer depends on what is found. -/
theorem linkLocalAddress_congr {m' : Machine} {text' : String} (htable : m.addressTable = some text)
    (htable' : m'.addressTable = some text')
    (h : linkLocalDigits text' interface = linkLocalDigits text interface) :
    m'.linkLocalAddress interface = m.linkLocalAddress interface := by
  unfold linkLocalAddress
  simp only [htable, htable', h]

/-- **The link-local address of an interface.** Let the addresses of the interface be hexadecimal
where they have the length of one. Then the answer is the text of the address on the first line that
qualifies, which is read back as that address, and the answer is a failure of the transport exactly
if no line qualifies. Whatever the table holds, edits of foreign lines leave the answer as it is. -/
theorem linkLocalAddress_first (htable : m.addressTable = some text) (interface : String) :
    (IsHexadecimal interface (lines text.toList) →
      (∀ address, FirstQualifies interface (lines text.toList) address →
        m.linkLocalAddress interface = .ok (writeIpv6 address) ∧
          readIpv6? (writeIpv6 address).toList = some address) ∧
      ((∃ cause, m.linkLocalAddress interface = .error (.negotiation (.transport cause))) ↔
        NoneQualifies interface (lines text.toList))) ∧
    ∀ (m' : Machine) (text' : String), m'.addressTable = some text' →
      Relation.ReflTransGen (Edit interface) (lines text.toList) (lines text'.toList) →
      m'.linkLocalAddress interface = m.linkLocalAddress interface := by
  refine ⟨fun hhex => ⟨fun address hfirst => ⟨?_, ?_⟩, ?_, fun hnone => ?_⟩, ?_⟩
  · exact linkLocalAddress_of_firstQualifies htable hhex hfirst
  · obtain ⟨_, _, _, -, hqualifies, -⟩ := hfirst
    obtain ⟨digits, -, hlen, hvalue⟩ := hqualifies.entry
    have hlt : address < 2 ^ 128 := by
      have hlt := hexValue?_lt hvalue
      rw [hlen] at hlt
      exact hlt
    rw [writeIpv6, String.toList_ofList]
    exact readIpv6?_writeIpv6Chars hlt
  · rintro ⟨cause, herror⟩
    refine (noneQualifies_or interface _).resolve_right fun ⟨address, hfirst⟩ => ?_
    rw [linkLocalAddress_of_firstQualifies htable hhex hfirst] at herror
    cases herror
  · exact ⟨_, linkLocalAddress_of_noneQualifies htable hhex hnone⟩
  · intro m' text' htable' hedits
    refine linkLocalAddress_congr htable htable' ?_
    rw [linkLocalDigits_eq, linkLocalDigits_eq, filterMap_eq_of_edits hedits]

/-- A line of another interface. -/
def foreignLine : String := "fe800000000000000000000000000009 03 40 20 80 eth1"

/-- The first local address of an interface, in capital letters. -/
def capitalLine : String := "FE800000000000000000000000000001 02 40 20 80 eth0"

/-- A second local address of it. -/
def secondLine : String := "febf0000000000000000000000000002 02 40 20 80 eth0"

/-- A table with given lines. -/
def tableOf (ls : List String) : String := String.ofList (join ['\n'] (ls.map String.toList))

/-- The address in capital letters is found, and so it is when the other interface has gone to the
end. -/
theorem linkLocalAddress_first_of_capitals :
    linkLocalAddress ⟨[], some (tableOf [foreignLine, capitalLine, secondLine])⟩ "eth0"
        = .ok "fe80::1" ∧
      linkLocalAddress ⟨[], some (tableOf [capitalLine, secondLine, foreignLine])⟩ "eth0"
        = .ok "fe80::1" := by
  obtain ⟨hfound, hedits⟩ :=
    linkLocalAddress_first (m := ⟨[], some (tableOf [foreignLine, capitalLine, secondLine])⟩) rfl
      "eth0"
  have hlines : lines (tableOf [foreignLine, capitalLine, secondLine]).toList
      = [foreignLine.toList, capitalLine.toList, secondLine.toList] := by
    rw [tableOf, String.toList_ofList]
    decide +kernel
  have hlines' : lines (tableOf [capitalLine, secondLine, foreignLine]).toList
      = [capitalLine.toList, secondLine.toList, foreignLine.toList] := by
    rw [tableOf, String.toList_ofList]
    decide +kernel
  rw [hlines] at hfound hedits
  have hforeign : IsForeign "eth0" foreignLine.toList :=
    addressDigits?_eq_none.mp (by decide +kernel)
  have hhex : IsHexadecimal "eth0"
      [foreignLine.toList, capitalLine.toList, secondLine.toList] := by
    have hall : ∀ line ∈ [foreignLine.toList, capitalLine.toList, secondLine.toList],
        ∀ digits ∈ addressDigits? "eth0" line, (hexValue? digits).isSome := by decide +kernel
    intro line hline digits hentry _
    exact Option.isSome_iff_exists.mp (hall line hline digits (addressDigits?_eq_some.mpr hentry))
  have hqualifies : Qualifies "eth0" capitalLine.toList 0xfe800000000000000000000000000001 :=
    ⟨⟨"FE800000000000000000000000000001".toList, addressDigits?_eq_some.mp (by decide +kernel),
      by decide +kernel, by decide +kernel⟩, by decide⟩
  have hnone : NoneQualifies "eth0" [foreignLine.toList] := by
    intro line hline address hother
    obtain ⟨digits, hdigits, -⟩ := hother.localDigits?_eq_some
    rw [List.mem_singleton.mp hline, hforeign.localDigits?_eq_none] at hdigits
    cases hdigits
  have haddress : writeIpv6 0xfe800000000000000000000000000001 = "fe80::1" := by decide +kernel
  have htext := ((hfound hhex).1 _ ⟨[_], _, _, rfl, hqualifies, hnone⟩).1
  rw [haddress] at htext
  have hsame := hedits ⟨[], some (tableOf [capitalLine, secondLine, foreignLine])⟩ _ rfl
  rw [hlines', htext] at hsame
  exact ⟨htext, hsame (.single (.later hforeign [] [capitalLine.toList, secondLine.toList] []))⟩

end Machine

end PrefixDelegation
