import PrefixDelegation.Proofs.Traversal
import PrefixDelegation.Sequencer

/-!
# Identifiers are handed out once, and in order

A sequencer is made from numbers. All of them have to be numbers of transaction identifiers
(`Sequencer.ofNumbers_eq_ok_iff`), and the first that is not is named in the refusal
(`Sequencer.ofNumbers_eq_error_iff`).

From then on it takes calls, in any order and number. A run of calls is a list of turns
(`Sequencer.turns`): a call, and what it was made on. Each takes one of four courses
(`Sequencer.Turn.Course`): it hands out the identifier at the front of the queue, it is refused, it
draws a random identifier, or it marks that one came from elsewhere. Everything that is said about a
single call is read off its course.

Whether an identifier was queued is told from outside, without a look at the queue: it was returned
by a call that does not draw (`Sequencer.Turn.queued?`), and a call draws if there are random
identifiers that it does not leave as they are. What one turn hands out and what it leaves is what
it found (`Sequencer.Turn.queued?_append_queue`), so the same holds of a run
(`Sequencer.handedOut_append_queue`), and where the last identifier came from is what the last turn
says that tells of one (`Sequencer.lastSource_after`). `Sequencer.numbers_conserved` puts this
together.
-/

namespace PrefixDelegation

namespace Sequencer

/-! ### Numbers of identifiers -/

/-- The identifier with a number, or the refusal of the number. -/
def idOf (n : Int) : Except Misuse TransactionId :=
  match TransactionId.ofInt? n with
  | none => .error (.idOutOfRange n)
  | some id => .ok id

theorem idOf_eq_ok_iff {n : Int} {id : TransactionId} : idOf n = .ok id ↔ n = id.val := by
  rw [← TransactionId.ofInt?_eq_some_iff, idOf]
  cases TransactionId.ofInt? n with
  | none => simp only [reduceCtorEq]
  | some id' => simp only [Except.ok.injEq, Option.some.injEq]

theorem idOf_eq_error_iff {n : Int} {e : Misuse} :
    idOf n = .error e ↔ ¬ (0 ≤ n ∧ n ≤ 0xFFFFFF) ∧ e = .idOutOfRange n := by
  rw [← TransactionId.ofInt?_eq_none_iff, idOf]
  cases TransactionId.ofInt? n with
  | none => simp only [Except.error.injEq, true_and, eq_comm]
  | some id => simp only [reduceCtorEq, false_and]

/-- A number has an identifier if it is in the range of three octets. -/
theorem exists_idOf_iff {n : Int} : (∃ id, idOf n = .ok id) ↔ 0 ≤ n ∧ n ≤ 0xFFFFFF := by
  constructor
  · rintro ⟨id, h⟩
    have hn := idOf_eq_ok_iff.mp h
    have hlt := id.val_lt
    omega
  · intro hfits
    cases h : idOf n with
    | ok id => exact ⟨id, rfl⟩
    | error e => exact absurd hfits (idOf_eq_error_iff.mp h).1

/-- Numbers are read one by one. -/
theorem idsOf_eq_mapM (numbers : List Int) : idsOf numbers = numbers.mapM idOf := by
  induction numbers with
  | nil => rfl
  | cons n numbers ih =>
    rw [idsOf, List.mapM_cons, ← ih, idOf]
    cases TransactionId.ofInt? n with
    | none => rfl
    | some id => cases idsOf numbers <;> rfl

/-- **A sequencer is made from the numbers of the identifiers in its queue**, and nothing was handed
out before. -/
theorem ofNumbers_eq_ok_iff {numbers : List Int} {s : Sequencer} : ofNumbers numbers = .ok s ↔
    numbers = s.queue.map (fun id => (id.val : Int)) ∧ s.lastSource = none := by
  have hids {ids : List TransactionId} :
      idsOf numbers = .ok ids ↔ numbers = ids.map fun id => (id.val : Int) := by
    rw [idsOf_eq_mapM, mapM_eq_ok_iff, ← List.forall₂_eq_eq_eq, List.forall₂_map_right_iff]
    simp only [idOf_eq_ok_iff]
  rw [ofNumbers, map_eq_ok_iff]
  constructor
  · rintro ⟨ids, h, rfl⟩
    exact ⟨hids.mp h, rfl⟩
  · rintro ⟨hqueue, hlast⟩
    refine ⟨s.queue, hids.mpr hqueue, ?_⟩
    rw [← hlast]

/-- **The first number out of range is refused.** -/
theorem ofNumbers_eq_error_iff {numbers : List Int} {e : Misuse} :
    ofNumbers numbers = .error e ↔ ∃ before n after, numbers = before ++ n :: after ∧
      (∀ m ∈ before, 0 ≤ m ∧ m ≤ 0xFFFFFF) ∧ ¬ (0 ≤ n ∧ n ≤ 0xFFFFFF) ∧ e = .idOutOfRange n := by
  have hids : ofNumbers numbers = .error e ↔ numbers.mapM idOf = .error e := by
    rw [ofNumbers, idsOf_eq_mapM]
    cases numbers.mapM idOf <;> simp [Except.map]
  rw [hids, mapM_eq_error_iff]
  simp only [exists_idOf_iff, idOf_eq_error_iff]

/-- So it can be made from any numbers in the range of three octets, and from no others. -/
theorem exists_ofNumbers_iff {numbers : List Int} :
    (∃ s, ofNumbers numbers = .ok s) ↔ ∀ n ∈ numbers, 0 ≤ n ∧ n ≤ 0xFFFFFF := by
  constructor
  · rintro ⟨s, h⟩ n hn
    obtain ⟨rfl, -⟩ := ofNumbers_eq_ok_iff.mp h
    obtain ⟨id, -, rfl⟩ := List.mem_map.mp hn
    have hlt := id.val_lt
    omega
  · intro hall
    cases h : ofNumbers numbers with
    | ok s => exact ⟨s, rfl⟩
    | error e =>
      obtain ⟨before, n, after, rfl, -, hn, -⟩ := ofNumbers_eq_error_iff.mp h
      exact absurd (hall n List.mem_append_cons_self) hn

/-! ### Calls -/

/-- The calls that a sequencer takes. -/
inductive Call where
  /-- Hand out the next identifier. -/
  | take
  /-- Hand out the next identifier, or a random one when none is left. -/
  | next
  /-- Remember that an identifier came from elsewhere. -/
  | markRandom
deriving Repr, DecidableEq

/-- What comes of a call: its answer, which holds an identifier if it returns one, and what it
leaves of the sequencer and of the random identifiers. -/
structure Outcome where
  answer : Except NegotiationError (Option TransactionId)
  sequencer : Sequencer
  random : RandomIds
deriving DecidableEq

/-- Carries out a call. -/
def perform (s : Sequencer) (random : RandomIds) : Call → Outcome
  | .take =>
    let (answer, s) := s.take
    ⟨answer.map some, s, random⟩
  | .next =>
    let (id, s, random) := s.next random
    ⟨.ok (some id), s, random⟩
  | .markRandom => ⟨.ok none, s.markRandom, random⟩

/-- A call of a run, with the sequencer and the random identifiers that it was made on. -/
structure Turn where
  call : Call
  before : Sequencer
  random : RandomIds
deriving Repr, DecidableEq

namespace Turn

/-- What comes of a turn. -/
def outcome (t : Turn) : Outcome := t.before.perform t.random t.call

/-- The identifier that is returned. -/
def id? (t : Turn) : Option TransactionId :=
  match t.outcome.answer with
  | .ok id? => id?
  | .error _ => none

/-- A call **draws** if there are random identifiers that it does not leave as they are. -/
def Draws (t : Turn) : Prop := ∃ random, (t.before.perform random t.call).random ≠ random

/-- **The courses of a turn.** -/
inductive Course (t : Turn) : Prop
  /-- The identifier at the front of the queue is handed out. -/
  | handsOut (id : TransactionId) (rest : List TransactionId) (call_ne : t.call ≠ .markRandom)
      (queue_eq : t.before.queue = id :: rest)
      (outcome_eq : t.outcome = ⟨.ok (some id), ⟨rest, some .deterministic⟩, t.random⟩)
  /-- The queue is empty, and the call is refused. -/
  | refuses (call_eq : t.call = .take) (queue_eq : t.before.queue = [])
      (outcome_eq : t.outcome = ⟨.error .idsExhausted, t.before, t.random⟩)
  /-- The queue is empty, and a random identifier is returned. -/
  | draws (call_eq : t.call = .next) (queue_eq : t.before.queue = [])
      (outcome_eq : t.outcome
        = ⟨.ok (some t.random.draw.1), t.before.markRandom, t.random.draw.2⟩)
  /-- An identifier from elsewhere is marked. -/
  | marks (call_eq : t.call = .markRandom)
      (outcome_eq : t.outcome = ⟨.ok none, t.before.markRandom, t.random⟩)

/-- Every turn takes one of them. -/
theorem course (t : Turn) : t.Course := by
  rcases t with ⟨call, ⟨queue, lastSource⟩, random⟩
  cases call with
  | take =>
    cases queue with
    | nil => exact .refuses rfl rfl rfl
    | cons id rest => exact .handsOut id rest Call.noConfusion rfl rfl
  | next =>
    cases queue with
    | nil => exact .draws rfl rfl rfl
    | cons id rest => exact .handsOut id rest Call.noConfusion rfl rfl
  | markRandom => exact .marks rfl rfl

/-- **A random identifier is drawn exactly if `next` finds the queue empty.** -/
theorem draws_iff (t : Turn) : t.Draws ↔ t.call = .next ∧ t.before.queue = [] := by
  constructor
  · rintro ⟨random, hdraws⟩
    -- the same call, with the random identifiers that it does not leave alone
    have hcourse := course { t with random }
    change (outcome { t with random }).random ≠ random at hdraws
    cases hcourse with
    | handsOut id rest _ _ outcome_eq => exact absurd (congrArg Outcome.random outcome_eq) hdraws
    | refuses _ _ outcome_eq => exact absurd (congrArg Outcome.random outcome_eq) hdraws
    | draws call_eq queue_eq _ => exact ⟨call_eq, queue_eq⟩
    | marks _ outcome_eq => exact absurd (congrArg Outcome.random outcome_eq) hdraws
  · rcases t with ⟨call, ⟨queue, lastSource⟩, random⟩
    rintro ⟨rfl, rfl⟩
    exact ⟨[default], (List.cons_ne_nil _ _).symm⟩

instance (t : Turn) : Decidable t.Draws := decidable_of_iff _ t.draws_iff.symm

/-- The queued identifier that is handed out: one that is returned without a draw. -/
def queued? (t : Turn) : Option TransactionId := if t.Draws then none else t.id?

/-- Whether a turn tells of an identifier: it returns one, or marks one from elsewhere. -/
def tells (t : Turn) : Bool := t.id?.isSome || t.call = .markRandom

/-- Where the identifier comes from that a turn tells of. -/
def source (t : Turn) : IdSource := if t.queued?.isSome then .deterministic else .random

/-- What is returned is in the answer. -/
theorem id?_of_outcome {t : Turn} {id? : Option TransactionId} {s : Sequencer} {random : RandomIds}
    (h : t.outcome = ⟨.ok id?, s, random⟩) : t.id? = id? := by
  rw [Turn.id?, h]

/-- The identifier at the front of the queue is handed out, if there is one, by every call that is
to hand one out. -/
theorem queued?_eq (t : Turn) :
    t.queued? = if t.call = .markRandom then none else t.before.queue.head? := by
  unfold queued?
  simp only [t.draws_iff]
  cases t.course with
  | handsOut id rest call_ne queue_eq outcome_eq =>
    rw [if_neg (by simp [queue_eq]), if_neg call_ne, id?_of_outcome outcome_eq, queue_eq]
    rfl
  | refuses call_eq queue_eq outcome_eq =>
    rw [if_neg (by simp [call_eq]), if_neg (by simp [call_eq]), Turn.id?, outcome_eq, queue_eq]
    rfl
  | draws call_eq queue_eq outcome_eq =>
    rw [if_pos ⟨call_eq, queue_eq⟩, if_neg (by simp [call_eq]), queue_eq]
    rfl
  | marks call_eq outcome_eq =>
    rw [if_neg (by simp [call_eq]), if_pos call_eq, id?_of_outcome outcome_eq]

/-- **What a turn hands out and what it leaves in the queue** is the queue that it found. -/
theorem queued?_append_queue (t : Turn) :
    t.queued?.toList ++ t.outcome.sequencer.queue = t.before.queue := by
  rw [t.queued?_eq]
  cases t.course with
  | handsOut id rest call_ne queue_eq outcome_eq =>
    rw [if_neg call_ne, outcome_eq, queue_eq]
    rfl
  | refuses call_eq queue_eq outcome_eq =>
    rw [outcome_eq, queue_eq, List.head?_nil, ite_self]
    rfl
  | draws call_eq queue_eq outcome_eq =>
    rw [outcome_eq, queue_eq, List.head?_nil, ite_self]
    exact queue_eq
  | marks call_eq outcome_eq =>
    rw [if_pos call_eq, outcome_eq]
    rfl

/-- **A turn that tells of an identifier** leaves behind where that one comes from, and any other
leaves what was known before. -/
theorem lastSource_outcome (t : Turn) : t.outcome.sequencer.lastSource
    = if t.tells then some t.source else t.before.lastSource := by
  unfold tells source
  rw [t.queued?_eq]
  cases t.course with
  | handsOut id rest call_ne queue_eq outcome_eq =>
    rw [id?_of_outcome outcome_eq, if_neg call_ne, outcome_eq, queue_eq]
    rfl
  | refuses call_eq queue_eq outcome_eq =>
    rw [Turn.id?, outcome_eq, call_eq]
    rfl
  | draws call_eq queue_eq outcome_eq =>
    rw [id?_of_outcome outcome_eq, outcome_eq, queue_eq, List.head?_nil, ite_self]
    rfl
  | marks call_eq outcome_eq =>
    rw [id?_of_outcome outcome_eq, if_pos call_eq, outcome_eq, call_eq]
    rfl

/-- **What holds of every turn.** -/
structure Lawful (t : Turn) : Prop where
  /-- A call is refused exactly if it is `take`, and the queue is empty. In particular, `next` never
  is. -/
  refused_iff : (∃ e, t.outcome.answer = .error e) ↔ t.call = .take ∧ t.before.queue = []
  /-- What is refused is refused for want of identifiers, and changes nothing. -/
  outcome_of_refused : ∀ e, t.outcome.answer = .error e →
    t.outcome = ⟨.error .idsExhausted, t.before, t.random⟩
  /-- If `take` and `next` are not refused, they return an identifier, and nothing else does. -/
  returns_iff : t.id?.isSome ↔ t.call = .next ∨ t.call = .take ∧ t.before.queue ≠ []
  /-- A random identifier is drawn exactly if `next` finds the queue empty. -/
  draws_iff : t.Draws ↔ t.call = .next ∧ t.before.queue = []
  /-- What is drawn is returned, and the next draw is another. -/
  outcome_of_draws : t.Draws → t.id? = some t.random.draw.1 ∧ t.outcome.random = t.random.draw.2
  /-- An identifier that is returned is in the range of three octets. -/
  id_le : ∀ id, t.id? = some id → id.val ≤ 0xFFFFFF

/-- Every turn is lawful, whatever course it takes. -/
theorem lawful (t : Turn) : t.Lawful where
  refused_iff := by
    cases t.course with
    | handsOut id rest call_ne queue_eq outcome_eq => simp [outcome_eq, queue_eq]
    | refuses call_eq queue_eq outcome_eq => simp [outcome_eq, call_eq, queue_eq]
    | draws call_eq queue_eq outcome_eq => simp [outcome_eq, call_eq]
    | marks call_eq outcome_eq => simp [outcome_eq, call_eq]
  outcome_of_refused e he := by
    cases t.course with
    | refuses call_eq queue_eq outcome_eq => exact outcome_eq
    | handsOut _ _ _ _ outcome_eq | draws _ _ outcome_eq | marks _ outcome_eq =>
      rw [outcome_eq] at he
      cases he
  returns_iff := by
    cases t.course with
    | handsOut id rest call_ne queue_eq outcome_eq =>
      rw [id?_of_outcome outcome_eq, queue_eq]
      cases hcall : t.call with
      | take | next => simp
      | markRandom => exact absurd hcall call_ne
    | refuses call_eq queue_eq outcome_eq => simp [Turn.id?, outcome_eq, call_eq, queue_eq]
    | draws call_eq queue_eq outcome_eq => simp [id?_of_outcome outcome_eq, call_eq]
    | marks call_eq outcome_eq => simp [id?_of_outcome outcome_eq, call_eq]
  draws_iff := t.draws_iff
  outcome_of_draws hdraws := by
    obtain ⟨hcall, hqueue⟩ := t.draws_iff.mp hdraws
    cases t.course with
    | draws call_eq queue_eq outcome_eq =>
      exact ⟨id?_of_outcome outcome_eq, congrArg Outcome.random outcome_eq⟩
    | handsOut id rest _ queue_eq _ =>
      rw [hqueue] at queue_eq
      cases queue_eq
    | refuses call_eq _ _ | marks call_eq _ =>
      rw [hcall] at call_eq
      cases call_eq
  id_le id _ := Nat.le_of_lt_succ id.val_lt

end Turn

/-! ### Runs of calls -/

/-- The turns of some calls, each made on what the one before it left. -/
def turns (s : Sequencer) (random : RandomIds) : List Call → List Turn
  | [] => []
  | c :: calls =>
    let t : Turn := ⟨c, s, random⟩
    t :: t.outcome.sequencer.turns t.outcome.random calls

/-- What some calls leave of a sequencer. -/
def after (s : Sequencer) (random : RandomIds) : List Call → Sequencer
  | [] => s
  | c :: calls =>
    let t : Turn := ⟨c, s, random⟩
    t.outcome.sequencer.after t.outcome.random calls

/-- The queued identifiers that were handed out in some turns, in order. -/
def handedOut (turns : List Turn) : List TransactionId := turns.filterMap Turn.queued?

/-- **What was handed out and what is left in the queue** is the queue that there was. -/
theorem handedOut_append_queue (s : Sequencer) (random : RandomIds) (calls : List Call) :
    handedOut (s.turns random calls) ++ (s.after random calls).queue = s.queue := by
  induction calls generalizing s random with
  | nil => rfl
  | cons c calls ih =>
    let t : Turn := ⟨c, s, random⟩
    let rest := t.outcome.sequencer.turns t.outcome.random calls
    let left := t.outcome.sequencer.after t.outcome.random calls
    have hhanded : handedOut (t :: rest) = t.queued?.toList ++ handedOut rest := by
      unfold handedOut
      cases h : t.queued? <;> simp [h]
    calc handedOut (t :: rest) ++ left.queue
      _ = t.queued?.toList ++ (handedOut rest ++ left.queue) := by
          rw [hhanded, List.append_assoc]
      _ = t.queued?.toList ++ t.outcome.sequencer.queue := by
          rw [ih]
      _ = s.queue := t.queued?_append_queue

/-- **Where the last identifier came from** is what the last turn says that tells of one, and what
was known before if there is no such turn. -/
theorem lastSource_after (s : Sequencer) (random : RandomIds) (calls : List Call) :
    (s.after random calls).lastSource
      = (((s.turns random calls).filter Turn.tells).getLast?.map Turn.source).or s.lastSource := by
  induction calls generalizing s random with
  | nil => rfl
  | cons c calls ih =>
    let t : Turn := ⟨c, s, random⟩
    have hstep := t.lastSource_outcome
    rw [turns, after, ih]
    by_cases htells : t.tells = true
    · -- the turn counts if no turn behind it does
      rw [if_pos htells] at hstep
      rw [hstep, List.filter_cons_of_pos htells, List.getLast?_cons]
      cases (t.outcome.sequencer.turns t.outcome.random calls |>.filter Turn.tells).getLast? <;> rfl
    · rw [if_neg htells] at hstep
      rw [hstep, List.filter_cons_of_neg htells]

/-- **The identifiers of a sequencer are conserved.** A sequencer can be made from some numbers
exactly if all of them are in the range of three octets. Let one be made, and let any calls be made
on it, in any order and number, with any random identifiers to draw from. The queued identifiers
that were handed out, in order, followed by those that are still in the queue, are those with the
given numbers. Where the last identifier came from is told by the last call that returned or marked
one: from the queue, if it handed out a queued one, and from the random ones if not; nothing is told
if there was no such call. A call is refused exactly if it is `take` and finds the queue empty, and
then changes nothing, while `next` draws exactly then, and returns what it drew. -/
theorem numbers_conserved (numbers : List Int) :
    ((∃ s, ofNumbers numbers = .ok s) ↔ ∀ n ∈ numbers, 0 ≤ n ∧ n ≤ 0xFFFFFF) ∧
      ∀ s₀, ofNumbers numbers = .ok s₀ → ∀ (random : RandomIds) (calls : List Call),
        (handedOut (s₀.turns random calls) ++ (s₀.after random calls).queue).map
            (fun id => (id.val : Int)) = numbers ∧
          (s₀.after random calls).lastSource
            = ((s₀.turns random calls).filter Turn.tells).getLast?.map Turn.source ∧
          ∀ t ∈ s₀.turns random calls, t.Lawful := by
  refine ⟨exists_ofNumbers_iff, fun s₀ h₀ random calls => ?_⟩
  obtain ⟨hqueue, hlast⟩ := ofNumbers_eq_ok_iff.mp h₀
  refine ⟨?_, ?_, fun t _ => t.lawful⟩
  · rw [handedOut_append_queue, hqueue]
  · rw [lastSource_after, hlast, Option.or_none]

/-- Two identifiers are handed out, with one from elsewhere marked in between. Then `take` is
refused, and `next` draws a random one. -/
theorem numbers_conserved_of_mixed_calls :
    ∃ s₀ turns s, ofNumbers [0x11, 0x22] = .ok s₀ ∧
      s₀.turns [.ofNat 7] [.take, .markRandom, .next, .take, .next] = turns ∧
      s₀.after [.ofNat 7] [.take, .markRandom, .next, .take, .next] = s ∧
      (handedOut turns ++ s.queue).map (fun id => (id.val : Int)) = [0x11, 0x22] ∧
      s.lastSource = some .random ∧
      (∃ t, turns[3]? = some t ∧ t.outcome = ⟨.error .idsExhausted, t.before, t.random⟩) ∧
      ∃ t, turns[4]? = some t ∧ t.id? = some (.ofNat 7) := by
  have h₀ : ofNumbers [0x11, 0x22] = .ok ⟨[.ofNat 0x11, .ofNat 0x22], none⟩ := rfl
  obtain ⟨hids, hlast, hlawful⟩ := (numbers_conserved [0x11, 0x22]).2 _ h₀ [.ofNat 7]
    [.take, .markRandom, .next, .take, .next]
  refine ⟨_, _, _, h₀, rfl, rfl, hids, hlast.trans (by decide +kernel), ⟨_, rfl, ?_⟩, ⟨_, rfl, ?_⟩⟩
  · exact (hlawful _ (List.mem_of_getElem? (i := 3) rfl)).outcome_of_refused _ rfl
  · exact ((hlawful _ (List.mem_of_getElem? (i := 4) rfl)).outcome_of_draws (by decide +kernel)).1

end Sequencer

end PrefixDelegation
