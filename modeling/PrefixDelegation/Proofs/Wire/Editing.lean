import PrefixDelegation.Fault
import PrefixDelegation.Proofs.Wire.OptionList

/-!
# Editing messages

A message can be given another type, another transaction identifier, and more options. Type and
identifier are in the header and touch nothing else, and an identifier that does not fit is refused
and changes nothing at all. An option is added at the end, and where the end is depends on the tail
that the message was read with:

* without a tail the option stands behind the others and is one of them;
* raw octets stay where they are, so the option stands behind them and is hidden;
* padding moves to the end of what is written, so the option stands in front of it, and is hidden
  all the same.

Edits come in any order and number. What a sequence of them leaves is told by what each of them
names (`Message.Edited`): the last type, the last identifier that was accepted, and all options that
were added. One edit more keeps this (`Message.Edited.step`), so every sequence comes to it
(`Message.edited_edits`), and `Message.encode_edits` reads off what is written and which options are
seen. Whether anything is written at all depends on the options alone, on those that were added as on
those there were (`Message.Edited.isWritable_iff`).
-/

namespace PrefixDelegation

open Wire

namespace Wire

/-- The raw octets of a tail. What is added stands behind them. -/
def Tail.rawOctets : Tail → Octets
  | .raw octets => octets
  | .nothing | .padding _ => []

/-- The padding of a tail. What is added stands in front of it. -/
def Tail.paddingOctets : Tail → Octets
  | .padding octets => octets
  | .nothing | .raw _ => []

end Wire

namespace Message

/-! ### What is written -/

/-- The octets of a message between header and padding: its options, the raw octets behind them, and
what was added behind a tail. -/
def front (m : Message) : Octets :=
  optionOctets m.options ++ (m.tail.rawOctets ++ optionOctets m.hidden)

/-- The octets of a message behind its header. -/
def content (m : Message) : Octets := m.front ++ m.tail.paddingOctets

/-- A message consists of its type, its identifier and its content. -/
theorem octets_eq_content (m : Message) :
    m.octets = UInt8.ofNat m.type.toNat :: Octets.ofNat 3 m.xid.val ++ m.content := by
  unfold octets content front
  cases m.tail <;> simp [Tail.rawOctets, Tail.paddingOctets]

/-- The content starts behind four octets. -/
theorem drop_octets (m : Message) : m.octets.drop 4 = m.content := by
  rw [octets_eq_content]
  exact List.drop_left' (by simp)

/-- Options are written one behind the other. -/
theorem optionOctets_append (os os' : List DhcpOption) :
    optionOctets (os ++ os') = optionOctets os ++ optionOctets os' :=
  List.flatMap_append

theorem optionOctets_singleton (o : DhcpOption) : optionOctets [o] = o.octets :=
  List.append_nil _

/-! ### Datagrams that differ in their identifiers -/

/-- Two datagrams are the same apart from their transaction identifiers, which are in the three
octets behind the first. -/
def SameApartFromXid (d d' : Octets) : Prop := ∀ i, i < 1 ∨ 4 ≤ i → d[i]? = d'[i]?

/-- Datagrams with the same first octet and the same content are so. -/
theorem sameApartFromXid_of_drop {d d' : Octets} (hhead : d.head? = d'.head?)
    (hdrop : d.drop 4 = d'.drop 4) : SameApartFromXid d d' := by
  rintro i (hfirst | hbehind)
  · obtain rfl : i = 0 := by omega
    rw [← List.head?_eq_getElem?, ← List.head?_eq_getElem?, hhead]
  · obtain ⟨j, rfl⟩ := Nat.exists_eq_add_of_le hbehind
    rw [← List.getElem?_drop, ← List.getElem?_drop, hdrop]

/-- A datagram carries a message if it is the message in some transaction. -/
def IsCarriedBy (m : Message) (d : Octets) : Prop := ∃ xid, Message.encode { m with xid } = .ok d

/-- Datagrams that carry one message are the same apart from their transactions. -/
theorem IsCarriedBy.sameApartFromXid {m : Message} {d d' : Octets} (h : m.IsCarriedBy d)
    (h' : m.IsCarriedBy d') : SameApartFromXid d d' := by
  obtain ⟨xid, h⟩ := h
  obtain ⟨xid', h'⟩ := h'
  obtain ⟨-, rfl⟩ := encode_eq_ok_iff.mp h
  obtain ⟨-, rfl⟩ := encode_eq_ok_iff.mp h'
  refine sameApartFromXid_of_drop rfl ?_
  rw [drop_octets, drop_octets]
  rfl

/-! ### Adding an option -/

/-- A message is *orderly* if it hides options behind a tail only. -/
def IsOrderly (m : Message) : Prop := m.tail = .nothing → m.hidden = []

/-- Options that were added behind the others, or behind a tail, are written at the end, in front of
padding. -/
theorem front_of_added {m n : Message} {os : List DhcpOption} (h : m.IsOrderly)
    (htail : n.tail = m.tail)
    (hoptions : n.options = if m.tail = .nothing then m.options ++ os else m.options)
    (hhidden : n.hidden = if m.tail = .nothing then m.hidden else m.hidden ++ os) :
    n.front = m.front ++ optionOctets os := by
  unfold front
  rw [htail, hoptions, hhidden]
  by_cases hnone : m.tail = .nothing
  · -- there is nothing behind the options
    rw [if_pos hnone, if_pos hnone, h hnone, hnone, optionOctets_append]
    simp only [Tail.rawOctets, optionOctets, List.flatMap_nil, List.append_nil]
  · rw [if_neg hnone, if_neg hnone, optionOctets_append]
    simp only [List.append_assoc]

section AddOption

variable (m : Message) (o : DhcpOption)

/-- An option that is added leaves the tail alone. -/
theorem tail_addOption : (m.addOption o).tail = m.tail := by
  unfold addOption
  split <;> rfl

/-- Without a tail, what is added is seen. -/
theorem options_addOption :
    (m.addOption o).options = if m.tail = .nothing then m.options ++ [o] else m.options := by
  unfold addOption
  cases m.tail <;> rfl

/-- Behind a tail, it is hidden. -/
theorem hidden_addOption :
    (m.addOption o).hidden = if m.tail = .nothing then m.hidden else m.hidden ++ [o] := by
  unfold addOption
  cases m.tail <;> rfl

variable {m}

/-- **An option is written at the end**, in front of padding. -/
theorem front_addOption (h : m.IsOrderly) : (m.addOption o).front = m.front ++ o.octets := by
  have hfront := front_of_added h (m.tail_addOption o) (m.options_addOption o) (m.hidden_addOption o)
  rw [hfront, optionOctets_singleton]

end AddOption

/-! ### Messages before they are edited -/

/-- A message as a client comes by it: it was read, or it was built. -/
inductive IsFresh : Message → Prop
  | read {data : Octets} {m : Message} (h : decode data = .ok m) : IsFresh m
  | solicit (duid : Octets) (xid : TransactionId) : IsFresh (.solicit duid xid)
  | request {advertise : Option Message} {server : DhcpOption}
      (h : serverOf advertise = .ok server) (duid : Octets) (xid : TransactionId) :
      IsFresh (.request duid server xid)

/-- Nothing was added yet. -/
theorem IsFresh.hidden_eq {m : Message} (h : m.IsFresh) : m.hidden = [] := by
  cases h with
  | @read data _ h =>
    rcases decode_cases data with ⟨-, m', hm', hholds⟩ | ⟨-, e, he, -⟩
    · obtain rfl := Except.ok.inj (h.symm.trans hm')
      exact hholds.hidden_eq
    · rw [h] at he
      cases he
  | solicit | request => rfl

/-! ### Edits -/

/-- The edits of a message. -/
inductive Edit where
  | setType (type : MessageType)
  | setXid (id : Int)
  | addOption (o : DhcpOption)
deriving Repr, DecidableEq

namespace Edit

/-- The type that an edit sets. -/
def type? : Edit → Option MessageType
  | .setType type => some type
  | .setXid _ | .addOption _ => none

/-- The identifier that an edit sets, if its number is one. -/
def xid? : Edit → Option TransactionId
  | .setXid id => TransactionId.ofInt? id
  | .setType _ | .addOption _ => none

/-- The option that an edit adds. -/
def option? : Edit → Option DhcpOption
  | .addOption o => some o
  | .setType _ | .setXid _ => none

end Edit

/-- Edits a message. An edit that is refused leaves the message as it was. -/
def edit (m : Message) : Edit → Except Misuse Unit × Message
  | .setType type => (.ok (), { m with type })
  | .setXid id =>
    match m.setXid id with
    | .ok m' => (.ok (), m')
    | .error misuse => (.error misuse, m)
  | .addOption o => (.ok (), m.addOption o)

/-- A message after some edits, refused ones included. -/
def edits (m : Message) (es : List Edit) : Message := es.foldl (fun m e => (m.edit e).2) m

/-- One edit more is made last. -/
theorem edits_concat (m : Message) (es : List Edit) (e : Edit) :
    m.edits (es ++ [e]) = ((m.edits es).edit e).2 := by
  rw [edits, List.foldl_append]
  rfl

/-- **An identifier that does not fit is refused**, and changes nothing. -/
theorem edit_setXid_of_not_fits (m : Message) {id : Int} (h : ¬ (0 ≤ id ∧ id ≤ 0xFFFFFF)) :
    m.edit (.setXid id) = (.error (.idOutOfRange id), m) := by
  unfold edit setXid
  simp only [TransactionId.ofInt?_eq_none_iff.mpr h]

/-- One that fits is set. -/
theorem edit_setXid_of_fits (m : Message) {id : Int} (h : 0 ≤ id ∧ id ≤ 0xFFFFFF) :
    ∃ xid, TransactionId.ofInt? id = some xid ∧ (xid.val : Int) = id ∧
      m.edit (.setXid id) = (.ok (), { m with xid }) := by
  cases hid : TransactionId.ofInt? id with
  | none => exact absurd h (TransactionId.ofInt?_eq_none_iff.mp hid)
  | some xid =>
    refine ⟨xid, rfl, (TransactionId.ofInt?_eq_some_iff.mp hid).symm, ?_⟩
    unfold edit setXid
    simp only [hid]

/-! ### What one edit leaves -/

section OneEdit

variable (m : Message) (e : Edit)

/-- An identifier is set, if it fits, and nothing else is. -/
theorem setXid_edit (id : Int) : (m.edit (.setXid id)).2
    = { m with xid := (TransactionId.ofInt? id).getD m.xid } := by
  change (match m.setXid id with
    | .ok m' => (Except.ok (), m')
    | .error misuse => (.error misuse, m)).2 = _
  unfold setXid
  cases TransactionId.ofInt? id <;> rfl

/-- Only an edit of the type touches the type. -/
theorem type_edit : (m.edit e).2.type = e.type?.getD m.type := by
  cases e with
  | setType type => rfl
  | setXid id =>
    rw [setXid_edit]
    rfl
  | addOption o =>
    unfold edit addOption
    cases m.tail <;> rfl

/-- Only one of the identifier touches the identifier. -/
theorem xid_edit : (m.edit e).2.xid = e.xid?.getD m.xid := by
  cases e with
  | setType type => rfl
  | setXid id =>
    rw [setXid_edit]
    rfl
  | addOption o =>
    unfold edit addOption
    cases m.tail <;> rfl

/-- None touches the tail. -/
theorem tail_edit : (m.edit e).2.tail = m.tail := by
  cases e with
  | setType type => rfl
  | setXid id => rw [setXid_edit]
  | addOption o => exact m.tail_addOption o

/-- An option goes behind the others where there is no tail. -/
theorem options_edit : (m.edit e).2.options
    = if m.tail = .nothing then m.options ++ e.option?.toList else m.options := by
  cases e with
  | setType type => simp [edit, Edit.option?]
  | setXid id => simp [setXid_edit, Edit.option?]
  | addOption o => exact m.options_addOption o

/-- It goes behind the tail where there is one. -/
theorem hidden_edit : (m.edit e).2.hidden
    = if m.tail = .nothing then m.hidden else m.hidden ++ e.option?.toList := by
  cases e with
  | setType type => simp [edit, Edit.option?]
  | setXid id => simp [setXid_edit, Edit.option?]
  | addOption o => exact m.hidden_addOption o

end OneEdit

/-! ### What edits leave -/

section Concat

variable {α : Type} (f : Edit → Option α) (es : List Edit) (e : Edit)

/-- What the last edit names is named last. -/
theorem filterMap_concat : (es ++ [e]).filterMap f = es.filterMap f ++ (f e).toList := by
  rw [List.filterMap_append]
  cases h : f e <;> simp [h]

/-- If it names nothing, what was named last before it counts. -/
theorem getLast?_filterMap_concat (a : α) :
    ((es ++ [e]).filterMap f).getLast?.getD a = (f e).getD ((es.filterMap f).getLast?.getD a) := by
  rw [filterMap_concat, List.getLast?_append]
  cases f e <;> rfl

end Concat

/-- **What is left of `m` after some edits.** The header is the one that was set last, the tail
stays, and the options that were added stand behind those there were, in the order in which they
were added. -/
structure Edited (m : Message) (es : List Edit) (n : Message) : Prop where
  type_eq : n.type = (es.filterMap Edit.type?).getLast?.getD m.type
  xid_eq : n.xid = (es.filterMap Edit.xid?).getLast?.getD m.xid
  tail_eq : n.tail = m.tail
  options_eq : n.options
    = if m.tail = .nothing then m.options ++ es.filterMap Edit.option? else m.options
  hidden_eq : n.hidden
    = if m.tail = .nothing then m.hidden else m.hidden ++ es.filterMap Edit.option?

/-- A message that was not edited is left as it was. -/
theorem Edited.start (m : Message) : m.Edited [] m where
  type_eq := rfl
  xid_eq := rfl
  tail_eq := rfl
  options_eq := by simp
  hidden_eq := by simp

/-- **One edit more** counts before those that were made, and adds behind them. -/
theorem Edited.step {m n : Message} {es : List Edit} (h : m.Edited es n) (e : Edit) :
    m.Edited (es ++ [e]) (n.edit e).2 where
  type_eq := by rw [type_edit, h.type_eq, getLast?_filterMap_concat]
  xid_eq := by rw [xid_edit, h.xid_eq, getLast?_filterMap_concat]
  tail_eq := (n.tail_edit e).trans h.tail_eq
  options_eq := by
    rw [options_edit, h.tail_eq, h.options_eq, filterMap_concat]
    by_cases htail : m.tail = .nothing
    · rw [if_pos htail, if_pos htail, if_pos htail, List.append_assoc]
    · rw [if_neg htail, if_neg htail, if_neg htail]
  hidden_eq := by
    rw [hidden_edit, h.tail_eq, h.hidden_eq, filterMap_concat]
    by_cases htail : m.tail = .nothing
    · rw [if_pos htail, if_pos htail, if_pos htail]
    · rw [if_neg htail, if_neg htail, if_neg htail, List.append_assoc]

/-- **Every sequence of edits comes to this.** -/
theorem edited_edits (m : Message) (es : List Edit) : m.Edited es (m.edits es) := by
  -- from the last edit to the first
  induction es using List.reverseRecOn with
  | nil => exact .start m
  | append_singleton es e ih =>
    rw [edits_concat]
    exact ih.step e

/-- The options that were added stand behind those there were, seen or not. -/
theorem Edited.options_append_hidden {m n : Message} {es : List Edit} (h : m.Edited es n)
    (hhidden : m.hidden = []) :
    n.options ++ n.hidden = m.options ++ es.filterMap Edit.option? := by
  rw [h.options_eq, h.hidden_eq, hhidden]
  by_cases htail : m.tail = .nothing
  · rw [if_pos htail, if_pos htail, List.append_nil]
  · rw [if_neg htail, if_neg htail, List.nil_append]

/-- The message can be written if the options there were can be, and those that were added. -/
theorem Edited.isWritable_iff {m n : Message} {es : List Edit} (h : m.Edited es n)
    (hhidden : m.hidden = []) :
    n.IsWritable ↔ ∀ o ∈ m.options ++ es.filterMap Edit.option?, o.isWritable = true := by
  rw [IsWritable, h.options_append_hidden hhidden]

/-- A message that a client can hand in: it was read or built, and then edited. -/
def IsMade (m : Message) : Prop :=
  ∃ (fresh : Message) (es : List Edit), fresh.IsFresh ∧ m = fresh.edits es

/-- Such a message hides options behind a tail only. -/
theorem IsMade.isOrderly {m : Message} (h : m.IsMade) : m.IsOrderly := by
  obtain ⟨fresh, es, hfresh, rfl⟩ := h
  have hedited := fresh.edited_edits es
  intro htail
  rw [hedited.tail_eq] at htail
  rw [hedited.hidden_eq, if_pos htail, hfresh.hidden_eq]

/-- The octets behind the header are those there were, and the options that were added stand in
front of the padding. -/
theorem Edited.content_eq {m n : Message} {es : List Edit} (h : m.Edited es n)
    (horderly : m.IsOrderly) : n.content
      = m.front ++ optionOctets (es.filterMap Edit.option?) ++ m.tail.paddingOctets := by
  have hfront := front_of_added horderly h.tail_eq h.options_eq h.hidden_eq
  rw [content, hfront, h.tail_eq]

/-- **Editing a message touches what is named, and nothing else.** Let a message be read or built,
and edited in any way, any number of times. It can be written exactly if all its options can be, those
that were added included; else one that is too long is reported. It is written with the type that was
set last and the identifier that was accepted last, or with those it had; then come its options and the
raw octets it was read with, the options that were added, in their order, and its padding. Its options
are those it had and those that were added if it was read without raw octets and padding, and those it
had alone if not. An identifier that is not in the range of three octets is refused, and the message is
left as it was, and every other is set. -/
theorem encode_edits {m : Message} (h : m.IsFresh) (es : List Edit) :
    (∀ d, (m.edits es).encode = .ok d ↔
      (∀ o ∈ m.options ++ es.filterMap Edit.option?, o.isWritable = true) ∧
      d = UInt8.ofNat ((es.filterMap Edit.type?).getLast?.getD m.type).toNat
          :: Octets.ofNat 3 ((es.filterMap Edit.xid?).getLast?.getD m.xid).val
          ++ (optionOctets m.options ++ m.tail.rawOctets ++ optionOctets (es.filterMap Edit.option?)
            ++ m.tail.paddingOctets)) ∧
      (∀ e, (m.edits es).encode = .error e →
        ∃ o ∈ m.options ++ es.filterMap Edit.option?, o.isWritable = false ∧
          e = .optionTooLong o.code o.body.length) ∧
      (m.edits es).options
        = (if m.tail = .nothing then m.options ++ es.filterMap Edit.option? else m.options) ∧
      (∀ (n : Message) (id : Int), ¬ (0 ≤ id ∧ id ≤ 0xFFFFFF) →
        n.edit (.setXid id) = (.error (.idOutOfRange id), n)) ∧
      ∀ (n : Message) (id : Int), 0 ≤ id ∧ id ≤ 0xFFFFFF →
        ∃ xid, TransactionId.ofInt? id = some xid ∧ (xid.val : Int) = id ∧
          n.edit (.setXid id) = (.ok (), { n with xid }) := by
  have hedited := m.edited_edits es
  have hfront : m.front = optionOctets m.options ++ m.tail.rawOctets := by
    rw [front, h.hidden_eq]
    simp only [optionOctets, List.flatMap_nil, List.append_nil]
  have hoctets := (m.edits es).octets_eq_content
  rw [hedited.type_eq, hedited.xid_eq, hedited.content_eq fun _ => h.hidden_eq, hfront] at hoctets
  refine ⟨fun d => ?_, fun e he => ?_, hedited.options_eq, fun n id => n.edit_setXid_of_not_fits,
    fun n id => n.edit_setXid_of_fits⟩
  · rw [encode_eq_ok_iff, hedited.isWritable_iff h.hidden_eq, hoctets]
    exact and_congr_right fun _ => eq_comm
  · have hnot : ¬ (m.edits es).IsWritable := fun hwritable => by
      rw [hwritable.encode_eq] at he
      cases he
    obtain ⟨o, ho, hlong, heq⟩ := encode_of_not_isWritable hnot
    rw [hedited.options_append_hidden h.hidden_eq] at ho
    exact ⟨o, ho, hlong, Except.error.inj (he.symm.trans heq)⟩

/-- A Reply ends in an option that ends its chain, with one octet of padding behind it. It is made a
Release with another identifier, two numbers that are no identifiers are refused, and two options
are added. They stand in front of the padding, and are not seen. -/
theorem encode_edits_of_padding :
    ∃ m, decode ([7, 0, 0, 17] ++ [0, 14, 0, 0] ++ ([0, 26, 0, 25] ++ .replicate 25 0) ++ [9])
        = .ok m ∧
      (m.edits [.setXid 0x1000000, .addOption .elapsedTime, .setType .release, .setXid 5,
          .addOption .optionRequest, .setXid (-1)]).encode
        = .ok ([8, 0, 0, 5] ++ [0, 14, 0, 0] ++ ([0, 26, 0, 25] ++ .replicate 25 0)
          ++ [0, 8, 0, 2, 0, 0] ++ [0, 6, 0, 4, 0, 23, 0, 24] ++ [9]) ∧
      (m.edits [.setXid 0x1000000, .addOption .elapsedTime, .setType .release, .setXid 5,
          .addOption .optionRequest, .setXid (-1)]).options = m.options := by
  have hdecode := decode_header (by decide : IsExchanged MessageType.reply.toNat) (.ofNat 17)
    ([0, 14, 0, 0] ++ ([0, 26, 0, 25] ++ .replicate 25 0) ++ [9])
  have hread : Chain.read ([0, 14, 0, 0] ++ ([0, 26, 0, 25] ++ .replicate 25 0) ++ [9])
      = ⟨[[0, 14, 0, 0], [0, 26, 0, 25] ++ .replicate 25 0], .padding [9]⟩ := by
    decide +kernel
  rw [hread] at hdecode
  obtain ⟨hencode, -, hoptions, -, -⟩ := encode_edits (.read hdecode)
    [.setXid 0x1000000, .addOption .elapsedTime, .setType .release, .setXid 5,
      .addOption .optionRequest, .setXid (-1)]
  exact ⟨_, hdecode, (hencode _).mpr ⟨by decide, rfl⟩, hoptions⟩

end Message

end PrefixDelegation
