import Mathlib.Data.List.TakeWhile
import Mathlib.Tactic.FinCases
import PrefixDelegation.Proofs.Json.WrittenText

/-!
# Indented documents are read back

A value in the layout with lines of its own for every part is read as that value, whatever follows it
(`rereads_of_isPlain`), and so is a whole document with a line feed at its end (`read_indented`). This
holds of the values that have one written form: null, truth values, texts, and lists and objects of
such, nested no deeper than a reader goes, with different names in an object (`IsPlain`).

The induction is on the value, with the place where it stands and what follows it left open. A list
and an object have a loop each, which takes one part after the other. What such a loop owes to a part
is said once (`ReadsPart`), and so it is proved once that a loop reads all of them (`loop_onLines`). The
count of steps never runs out, because every step of a loop passes at least one character; so it is
enough that the count starts at the number of characters.
-/

namespace PrefixDelegation.Json

open Text

/-- Values that have one written form and are nested at most so deep. -/
inductive IsPlain : (depth : Nat) → Json → Prop
  | null {depth : Nat} : IsPlain depth .null
  | bool {depth : Nat} (b : Bool) : IsPlain depth (.bool b)
  | text {depth : Nat} (s : String) : IsPlain depth (.text s)
  | list {depth : Nat} {items : List Json} (parts : ∀ item ∈ items, IsPlain depth item) :
      IsPlain (depth + 1) (.list items)
  | object {depth : Nat} {members : List (String × Json)}
      (names : (members.map fun m => m.1).Nodup) (parts : ∀ m ∈ members, IsPlain depth m.2) :
      IsPlain (depth + 1) (.object members)

/-- What is nested at most so deep is nested at most deeper. -/
theorem IsPlain.mono {depth depth' : Nat} {v : Json} (h : IsPlain depth v) (hle : depth ≤ depth') :
    IsPlain depth' v := by
  induction h generalizing depth' with
  | null => exact .null
  | bool b => exact .bool b
  | text s => exact .text s
  | list _ ih =>
    obtain ⟨depth', rfl⟩ := Nat.exists_eq_add_of_le' (Nat.lt_of_lt_of_le (Nat.succ_pos _) hle)
    exact .list fun item hitem => ih item hitem (by omega)
  | object names _ ih =>
    obtain ⟨depth', rfl⟩ := Nat.exists_eq_add_of_le' (Nat.lt_of_lt_of_le (Nat.succ_pos _) hle)
    exact .object names fun m hm => ih m hm (by omega)

/-! ### Blanks between tokens -/

/-- A line feed and the blanks at the start of the next line. -/
def newLine (indentation : Nat) : List Char := '\n' :: List.replicate (2 * indentation) ' '

/-- A character that starts a value, and so ends the blanks before it. -/
def StartsValue (c : Char) : Prop := c ∈ ['"', '[', '\x7b', 'n', 't', 'f']
deriving Decidable

theorem length_newLine (indentation : Nat) : (newLine indentation).length = 2 * indentation + 1 := by
  simp [newLine]

theorem skipBlanks_newLine (indentation : Nat) (s : List Char) :
    skipBlanks (newLine indentation ++ s) = skipBlanks s := by
  refine List.dropWhile_append_of_pos fun c hc => ?_
  rcases List.mem_cons.mp hc with rfl | hc
  · rfl
  · rw [List.eq_of_mem_replicate hc]
    rfl

theorem skipBlanks_of_startsValue {c : Char} (h : StartsValue c) (s : List Char) :
    skipBlanks (c :: s) = c :: s := by
  refine List.dropWhile_cons_of_neg ?_
  unfold StartsValue at h
  fin_cases h <;> decide

/-! ### Lines -/

theorem indentedItems_eq (indentation : Nat) (items : List Json) :
    indentedItems indentation items = items.map (indentedAt indentation) := by
  induction items with
  | nil => rfl
  | cons item items ih => rw [indentedItems, ih, List.map_cons]

/-- A member of an object on lines of its own. -/
def indentedMember (indentation : Nat) (m : String × Json) : String :=
  writeText m.1 ++ ": " ++ indentedAt indentation m.2

theorem indentedMembers_eq (indentation : Nat) (members : List (String × Json)) :
    indentedMembers indentation members = members.map (indentedMember indentation) := by
  induction members with
  | nil => rfl
  | cons m members ih =>
    rw [indentedMembers, ih, List.map_cons]
    rfl

/-- Parts on lines of their own, with a comma behind all but the last. -/
def onLines (indentation : Nat) (parts : List String) : List Char :=
  List.intercalate (',' :: newLine indentation) (parts.map String.toList)

theorem onLines_singleton (indentation : Nat) (part : String) :
    onLines indentation [part] = part.toList := by
  simp [onLines]

theorem onLines_cons_cons (indentation : Nat) (part next : String) (parts : List String) :
    onLines indentation (part :: next :: parts)
      = part.toList ++ (',' :: (newLine indentation ++ onLines indentation (next :: parts))) := by
  simp [onLines, List.intercalate_cons_cons]

/-- Lines begin with the first part. -/
theorem exists_onLines (indentation : Nat) {part : String} (parts : List String) {c : Char}
    {s : List Char} (hpart : part.toList = c :: s) :
    ∃ more, onLines indentation (part :: parts) = c :: more := by
  cases parts with
  | nil => exact ⟨s, by rw [onLines_singleton, hpart]⟩
  | cons next parts => exact ⟨_, by rw [onLines_cons_cons, hpart, List.cons_append]⟩

/-- Brackets around lines. -/
theorem toList_bracketed (indentation : Nat) (opening closing part : String) (parts : List String) :
    (bracketed indentation opening closing (part :: parts)).toList = opening.toList ++
      (newLine (indentation + 1) ++ (onLines (indentation + 1) (part :: parts) ++
        (newLine indentation ++ closing.toList))) := by
  unfold bracketed
  simp [onLines, newLine, String.toList_intercalate, String.toList_append]

/-! ### Values -/

/-- A value is read back in its place, whatever follows it. -/
structure Rereads (depth indentation : Nat) (v : Json) : Prop where
  starts : ∃ c s, (indentedAt indentation v).toList = c :: s ∧ StartsValue c
  read : ∀ (steps : Nat) (rest : List Char), (indentedAt indentation v).toList.length ≤ steps →
    readValue steps depth ((indentedAt indentation v).toList ++ rest) = .ok (v, rest)

/-- The blanks before a value are skipped. -/
theorem Rereads.skipBlanks {depth indentation : Nat} {v : Json} (h : Rereads depth indentation v)
    (rest : List Char) : skipBlanks ((indentedAt indentation v).toList ++ rest)
      = (indentedAt indentation v).toList ++ rest := by
  obtain ⟨c, s, heq, hc⟩ := h.starts
  rw [heq]
  exact skipBlanks_of_startsValue hc _

theorem toList_writeText (s : String) :
    (writeText s).toList = '"' :: (s.toList.flatMap writeChar ++ ['"']) := by
  simp [writeText]

/-- A text is read back behind its opening quote. -/
theorem readText_quoted (start : Nat) (s : String) (rest : List Char) :
    readText start ((s.toList.flatMap writeChar ++ '"' :: rest).length + 1) []
      (s.toList.flatMap writeChar ++ '"' :: rest) = .ok (s, rest) := by
  have hle := length_le_flatMap_writeChar s.toList
  rw [readText_writeText start s.toList [] rest (by simp only [List.length_append]; omega),
    List.reverse_nil, List.nil_append, String.ofList_toList]

theorem rereads_text (depth indentation : Nat) (s : String) :
    Rereads depth indentation (.text s) := by
  have htext : (indentedAt indentation (.text s)).toList
      = '"' :: (s.toList.flatMap writeChar ++ ['"']) := toList_writeText s
  refine ⟨⟨_, _, htext, by simp [StartsValue]⟩, fun steps rest h => ?_⟩
  obtain ⟨steps, rfl⟩ : ∃ more, steps = more + 1 := by
    rw [htext, List.length_cons] at h
    exact ⟨steps - 1, by omega⟩
  rw [htext, List.cons_append, List.append_assoc, List.singleton_append, readValue,
    readText_quoted]
  rfl

theorem rereads_name (depth indentation : Nat) {v : Json} {name : List Char} {c : Char}
    (hname : (indentedAt indentation v).toList = c :: name) (hc : StartsValue c)
    (hnot : c ≠ '"' ∧ c ≠ '[' ∧ c ≠ '\x7b')
    (h : ∀ rest, readSimple (c :: name ++ rest) = .ok (v, rest)) :
    Rereads depth indentation v := by
  refine ⟨⟨_, _, hname, hc⟩, fun steps rest hle => ?_⟩
  obtain ⟨steps, rfl⟩ : ∃ more, steps = more + 1 := by
    rw [hname, List.length_cons] at hle
    exact ⟨steps - 1, by omega⟩
  rw [hname, List.cons_append, readValue]
  · exact h rest
  · exact fun rest heq => hnot.1 (List.cons.inj heq).1
  · exact fun rest heq => hnot.2.1 (List.cons.inj heq).1
  · exact fun rest heq => hnot.2.2 (List.cons.inj heq).1

/-! ### Parts in brackets -/

section Parts

variable {α : Type} (written : α → String) (whole : List α → Json) (closing : Char)
  (loop : (steps : Nat) → (before : List α) → List Char → Except Stop (Json × List Char))

/-- A loop reads a part behind those before it: the bracket behind the last part ends the loop, and
behind a comma it goes on. -/
structure ReadsPart (before : List α) (a : α) : Prop where
  starts : ∃ c s, (written a).toList = c :: s ∧ StartsValue c
  ends : ∀ {steps : Nat} {s rest : List Char}, (written a).toList.length ≤ steps →
    skipBlanks s = closing :: rest →
    loop (steps + 1) before ((written a).toList ++ s) = .ok (whole (before ++ [a]), rest)
  goes_on : ∀ {steps : Nat} {s rest : List Char}, (written a).toList.length ≤ steps →
    skipBlanks s = ',' :: rest →
    loop (steps + 1) before ((written a).toList ++ s) = loop steps (before ++ [a]) (skipBlanks rest)

/-- Between an opening bracket and the closing one a reader loops over the parts of a value. -/
structure ReadsBrackets (depth : Nat) (opening : Char) : Prop where
  opening_starts : StartsValue opening
  closing_starts : ¬ StartsValue closing
  closing_stays : ∀ rest, skipBlanks (closing :: rest) = closing :: rest
  empty : ∀ steps rest,
    readValue (steps + 1) (depth + 1) (opening :: closing :: rest) = .ok (whole [], rest)
  opens : ∀ {steps : Nat} {c : Char} {s rest : List Char}, skipBlanks s = c :: rest → c ≠ closing →
    readValue (steps + 1) (depth + 1) (opening :: s) = loop steps [] (c :: rest)

variable {written whole closing loop}

/-- The blanks before the first line are skipped. -/
theorem skipBlanks_onLines (indentation : Nat) {part : String} (parts : List String)
    (rest : List Char) (h : ∃ c s, part.toList = c :: s ∧ StartsValue c) :
    skipBlanks (newLine indentation ++ (onLines indentation (part :: parts) ++ rest))
      = onLines indentation (part :: parts) ++ rest := by
  obtain ⟨c, s, hpart, hc⟩ := h
  obtain ⟨more, hmore⟩ := exists_onLines indentation parts hpart
  rw [skipBlanks_newLine, hmore]
  exact skipBlanks_of_startsValue hc _

/-- **Parts on lines of their own are read back**, behind those already read. -/
theorem loop_onLines {all before parts : List α} (hall : all = before ++ parts) (hne : parts ≠ [])
    (h : ∀ before a after, all = before ++ a :: after →
      ReadsPart written whole closing loop before a)
    (hclosing : ∀ rest, skipBlanks (closing :: rest) = closing :: rest) (indentation outer : Nat)
    (rest : List Char) {steps : Nat}
    (hsteps : (onLines indentation (parts.map written)).length < steps) :
    loop steps before (onLines indentation (parts.map written) ++ (newLine outer ++ closing :: rest))
      = .ok (whole all, rest) := by
  induction parts generalizing before steps with
  | nil => exact absurd rfl hne
  | cons a parts ih =>
    obtain ⟨steps, rfl⟩ : ∃ more, steps = more + 1 := ⟨steps - 1, by omega⟩
    have ha := h before a parts hall
    rcases parts with _ | ⟨next, parts⟩
    · -- the bracket behind the last part
      have hbracket : skipBlanks (newLine outer ++ closing :: rest) = closing :: rest := by
        rw [skipBlanks_newLine, hclosing]
      rw [List.map_singleton, onLines_singleton] at hsteps ⊢
      rw [ha.ends (Nat.le_of_lt_succ hsteps) hbracket, hall]
    · -- a comma and the other parts
      have hall' : all = (before ++ [a]) ++ next :: parts := by
        rw [hall, List.append_assoc, List.singleton_append]
      have hcomma : ∀ s, skipBlanks (',' :: s) = ',' :: s := fun _ => rfl
      rw [List.map_cons, List.map_cons, onLines_cons_cons] at hsteps ⊢
      rw [List.length_append, List.length_cons, List.length_append] at hsteps
      rw [List.append_assoc, List.cons_append, List.append_assoc,
        ha.goes_on (by omega) (hcomma _), skipBlanks_onLines indentation _ _
          (h _ next parts hall').starts]
      exact ih hall' (List.cons_ne_nil _ _) (show _ < steps by rw [List.map_cons]; omega)

/-- **A value in brackets is read back**, if its parts are. -/
theorem rereads_of_parts {depth indentation : Nat} {opening : Char} {all : List α}
    (hbrackets : ReadsBrackets whole closing loop depth opening)
    (hwritten : indentedAt indentation (whole all) = bracketed indentation
      (String.singleton opening) (String.singleton closing) (all.map written))
    (h : ∀ before a after, all = before ++ a :: after →
      ReadsPart written whole closing loop before a) :
    Rereads (depth + 1) indentation (whole all) := by
  cases all with
  | nil =>
    have htext : (indentedAt indentation (whole [])).toList = [opening, closing] := by
      rw [hwritten]
      simp [bracketed]
    refine ⟨⟨_, _, htext, hbrackets.opening_starts⟩, fun steps rest hle => ?_⟩
    obtain ⟨steps, rfl⟩ : ∃ more, steps = more + 1 := by
      rw [htext, List.length_cons] at hle
      exact ⟨steps - 1, by omega⟩
    rw [htext]
    exact hbrackets.empty steps rest
  | cons a parts =>
    have htext : (indentedAt indentation (whole (a :: parts))).toList =
        opening :: (newLine (indentation + 1) ++ (onLines (indentation + 1)
          ((a :: parts).map written) ++ (newLine indentation ++ [closing]))) := by
      rw [hwritten, List.map_cons, toList_bracketed, String.toList_singleton,
        String.toList_singleton, List.singleton_append]
    have hfirst := (h [] a parts rfl).starts
    refine ⟨⟨_, _, htext, hbrackets.opening_starts⟩, fun steps rest hle => ?_⟩
    rw [htext, List.length_cons, List.length_append, List.length_append, length_newLine] at hle
    obtain ⟨steps, rfl⟩ : ∃ more, steps = more + 1 := ⟨steps - 1, by omega⟩
    have hline := skipBlanks_onLines (indentation + 1) (parts.map written)
      (newLine indentation ++ closing :: rest) hfirst
    have hparts := loop_onLines (List.nil_append _).symm (List.cons_ne_nil a parts) h
      hbrackets.closing_stays (indentation + 1) indentation rest (show _ < steps by omega)
    obtain ⟨c, s, hpart, hc⟩ := hfirst
    obtain ⟨more, hmore⟩ := exists_onLines (indentation + 1) (parts.map written) hpart
    rw [hmore, List.cons_append] at hline
    rw [List.map_cons, hmore, List.cons_append] at hparts
    rw [htext, List.cons_append, List.append_assoc, List.append_assoc, List.append_assoc,
      List.singleton_append, List.map_cons, hmore, List.cons_append,
      hbrackets.opens hline fun heq => hbrackets.closing_starts (heq ▸ hc)]
    exact hparts

end Parts

/-! ### Lists -/

theorem readsBrackets_list (depth : Nat) :
    ReadsBrackets .list ']' (readItems · depth) depth '[' where
  opening_starts := by decide
  closing_starts := by decide
  closing_stays _ := rfl
  empty _ _ := rfl
  opens hfirst hne := by
    rw [readValue, if_neg (Nat.succ_ne_zero depth)]
    dsimp only
    rw [hfirst]
    split
    · next heq => exact absurd (List.cons.inj heq).1 hne
    · rfl

/-- An item of a list is read. -/
theorem readsPart_item {depth indentation : Nat} {item : Json} (h : Rereads depth indentation item)
    (before : List Json) :
    ReadsPart (indentedAt indentation) .list ']' (readItems · depth) before item where
  starts := h.starts
  ends hsteps hrest := by
    simp only [readItems, h.read _ _ hsteps, bind, Except.bind, hrest]
    rfl
  goes_on hsteps hrest := by
    simp only [readItems, h.read _ _ hsteps, bind, Except.bind, hrest]

/-- The empty list, and a list of items, are read back. -/
theorem rereads_list {depth indentation : Nat} {items : List Json}
    (h : ∀ item ∈ items, Rereads depth (indentation + 1) item) :
    Rereads (depth + 1) indentation (.list items) := by
  have hitems : ∀ before item after, items = before ++ item :: after →
      ReadsPart (indentedAt (indentation + 1)) .list ']' (readItems · depth) before item := by
    intro before item after hall
    exact readsPart_item (h item (by simp [hall])) before
  refine rereads_of_parts (readsBrackets_list depth) ?_ hitems
  rw [indentedAt, indentedItems_eq]
  rfl

/-! ### Objects -/

theorem toList_indentedMember (indentation : Nat) (m : String × Json) :
    (indentedMember indentation m).toList = '"' :: (m.1.toList.flatMap writeChar ++
      '"' :: ':' :: ' ' :: (indentedAt indentation m.2).toList) := by
  simp [indentedMember, toList_writeText]

/-- A name that no member has so far goes to the end. -/
theorem setMember_of_notMem {members : List (String × Json)} {name : String} (value : Json)
    (h : name ∉ members.map fun m => m.1) :
    setMember members name value = members ++ [(name, value)] := by
  have hany : members.any (fun m => m.1 == name) = false := by
    rw [List.any_eq_false]
    intro m hm heq
    exact h (List.mem_map.mpr ⟨m, hm, beq_iff_eq.mp heq⟩)
  unfold setMember
  rw [hany]
  rfl

theorem readsBrackets_object (depth : Nat) :
    ReadsBrackets .object '\x7d' (readMembers · depth) depth '\x7b' where
  opening_starts := by decide
  closing_starts := by decide
  closing_stays _ := rfl
  empty _ _ := rfl
  opens hfirst hne := by
    rw [readValue, if_neg (Nat.succ_ne_zero depth)]
    dsimp only
    rw [hfirst]
    split
    · next heq => exact absurd (List.cons.inj heq).1 hne
    · rfl

/-- **A member of an object is read** together with the comma or bracket behind it. -/
theorem readMembers_member {depth indentation : Nat} {m : String × Json}
    (h : Rereads depth indentation m.2) {before : List (String × Json)}
    (hnew : m.1 ∉ before.map fun m => m.1) {steps : Nat}
    (hsteps : (indentedMember indentation m).toList.length ≤ steps) (rest : List Char) :
    readMembers (steps + 1) depth before ((indentedMember indentation m).toList ++ rest)
      = match skipBlanks rest with
        | '\x7d' :: rest => .ok (.object (before ++ [m]), rest)
        | ',' :: rest => readMembers steps depth (before ++ [m]) (skipBlanks rest)
        | _ => .error (.problem .expectingComma (skipBlanks rest).length) := by
  have hcolon : ∀ s, skipBlanks (':' :: s) = ':' :: s := fun _ => rfl
  have hblank : skipBlanks (' ' :: ((indentedAt indentation m.2).toList ++ rest))
      = (indentedAt indentation m.2).toList ++ rest := h.skipBlanks rest
  rw [toList_indentedMember, List.length_cons, List.length_append, List.length_cons,
    List.length_cons, List.length_cons] at hsteps
  rw [toList_indentedMember, List.cons_append, List.append_assoc, List.cons_append,
    List.cons_append, List.cons_append, readMembers]
  simp only [readText_quoted, bind, Except.bind, hcolon, hblank, h.read steps rest (by omega),
    setMember_of_notMem m.2 hnew]
  rfl

theorem readsPart_member {depth indentation : Nat} {m : String × Json}
    (h : Rereads depth indentation m.2) {before : List (String × Json)}
    (hnew : m.1 ∉ before.map fun m => m.1) :
    ReadsPart (indentedMember indentation) .object '\x7d' (readMembers · depth) before m where
  starts := ⟨_, _, toList_indentedMember indentation m, by decide⟩
  ends hsteps hrest := by
    rw [readMembers_member h hnew hsteps, hrest]
    rfl
  goes_on hsteps hrest := by
    rw [readMembers_member h hnew hsteps, hrest]
    rfl

/-- The empty object, and an object of members with different names, are read back. -/
theorem rereads_object {depth indentation : Nat} {members : List (String × Json)}
    (hnames : (members.map fun m => m.1).Nodup)
    (h : ∀ m ∈ members, Rereads depth (indentation + 1) m.2) :
    Rereads (depth + 1) indentation (.object members) := by
  have hmembers : ∀ before m after, members = before ++ m :: after →
      ReadsPart (indentedMember (indentation + 1)) .object '\x7d' (readMembers · depth) before m := by
    intro before m after hall
    refine readsPart_member (h m (by simp [hall])) fun hmem => ?_
    -- no name comes twice
    rw [hall, List.map_append, List.map_cons] at hnames
    exact (List.nodup_append.mp hnames).2.2 m.1 hmem m.1 List.mem_cons_self rfl
  refine rereads_of_parts (readsBrackets_object depth) ?_ hmembers
  rw [indentedAt, indentedMembers_eq]
  rfl

/-! ### Documents -/

/-- **Plain values are read back** in their place. -/
theorem rereads_of_isPlain {depth : Nat} {v : Json} (h : IsPlain depth v) (indentation : Nat) :
    Rereads depth indentation v := by
  induction h generalizing indentation with
  | null =>
    have hname : (indentedAt indentation .null).toList = 'n' :: ['u', 'l', 'l'] := by
      simp [indentedAt, compact]
    exact rereads_name _ _ hname (by decide) (by decide) fun rest => rfl
  | bool b =>
    cases b with
    | true =>
      have hname : (indentedAt indentation (.bool true)).toList = 't' :: ['r', 'u', 'e'] := by
        simp [indentedAt, compact]
      exact rereads_name _ _ hname (by decide) (by decide) fun rest => rfl
    | false =>
      have hname : (indentedAt indentation (.bool false)).toList
          = 'f' :: ['a', 'l', 's', 'e'] := by
        simp [indentedAt, compact]
      exact rereads_name _ _ hname (by decide) (by decide) fun rest => rfl
  | text s => exact rereads_text _ _ s
  | list _ ih => exact rereads_list fun item hitem => ih item hitem (indentation + 1)
  | object names _ ih => exact rereads_object names fun m hm => ih m hm (indentation + 1)

/-- **A document is read back**, with the line feed at its end. -/
theorem read_indented {nesting : Nesting} {v : Json} (h : IsPlain nesting.levels v) :
    read nesting (v.indented ++ "\n") = .ok v := by
  have hrereads := rereads_of_isPlain h 0
  obtain ⟨c, s, hfirst, hc⟩ := hrereads.starts
  have htext : (v.indented ++ "\n").toList = (indentedAt 0 v).toList ++ ['\n'] := by
    simp [indented]
  -- a byte order mark would be refused, but a value starts otherwise
  have hmark : ((indentedAt 0 v).toList ++ ['\n']).head? ≠ some '\ufeff' := by
    rw [hfirst]
    rintro heq
    obtain rfl : c = '\ufeff' := Option.some.inj heq
    exact absurd hc (by decide)
  have hvalue := hrereads.read (2 * ((indentedAt 0 v).toList ++ ['\n']).length + 2) ['\n']
    (by rw [List.length_append]; omega)
  have hall : readAll nesting ((indentedAt 0 v).toList ++ ['\n']) = .ok v := by
    unfold readAll
    rw [if_neg (by simpa using hmark), hrereads.skipBlanks, hvalue]
    rfl
  unfold read
  dsimp only
  rw [htext, hall]
  rfl

/-! ### What documents are written with -/

/-- A character that a document holds: a line feed or a printable one. -/
def IsLaidOut (c : Char) : Prop := c = '\n' ∨ 0x20 ≤ c.toNat
deriving Decidable

theorem isLaidOut_of_mem_newLine {indentation : Nat} {c : Char} (h : c ∈ newLine indentation) :
    IsLaidOut c := by
  rcases List.mem_cons.mp h with rfl | h
  · exact .inl rfl
  · rw [List.eq_of_mem_replicate h]
    exact .inr (by decide)

theorem isLaidOut_of_mem_onLines {indentation : Nat} {parts : List String} {c : Char}
    (hparts : ∀ part ∈ parts, ∀ c ∈ part.toList, IsLaidOut c) (h : c ∈ onLines indentation parts) :
    IsLaidOut c := by
  induction parts with
  | nil => cases h
  | cons part parts ih =>
    have hpart := hparts part List.mem_cons_self
    rcases parts with _ | ⟨next, parts⟩
    · rw [onLines_singleton] at h
      exact hpart c h
    · rw [onLines_cons_cons] at h
      rcases List.mem_append.mp h with h | h
      · exact hpart c h
      rcases List.mem_cons.mp h with rfl | h
      · exact .inr (by decide)
      rcases List.mem_append.mp h with h | h
      · exact isLaidOut_of_mem_newLine h
      · exact ih (fun p hp => hparts p (List.mem_cons_of_mem _ hp)) h

theorem isLaidOut_of_mem_bracketed {indentation : Nat} {opening closing : String}
    {parts : List String} {c : Char} (hopening : ∀ c ∈ opening.toList, IsLaidOut c)
    (hclosing : ∀ c ∈ closing.toList, IsLaidOut c)
    (hparts : ∀ part ∈ parts, ∀ c ∈ part.toList, IsLaidOut c)
    (h : c ∈ (bracketed indentation opening closing parts).toList) : IsLaidOut c := by
  cases parts with
  | nil =>
    have hempty : (bracketed indentation opening closing []).toList
        = opening.toList ++ closing.toList := String.toList_append
    rw [hempty] at h
    exact (List.mem_append.mp h).elim (hopening c) (hclosing c)
  | cons part parts =>
    rw [toList_bracketed] at h
    rcases List.mem_append.mp h with h | h
    · exact hopening c h
    rcases List.mem_append.mp h with h | h
    · exact isLaidOut_of_mem_newLine h
    rcases List.mem_append.mp h with h | h
    · exact isLaidOut_of_mem_onLines hparts h
    rcases List.mem_append.mp h with h | h
    · exact isLaidOut_of_mem_newLine h
    · exact hclosing c h

theorem isLaidOut_of_mem_writeText {s : String} {c : Char} (h : c ∈ (writeText s).toList) :
    IsLaidOut c := by
  rw [toList_writeText] at h
  rcases List.mem_cons.mp h with rfl | h
  · exact .inr (by decide)
  rcases List.mem_append.mp h with h | h
  · obtain ⟨d, -, hd⟩ := List.mem_flatMap.mp h
    exact .inr (((isForm_writeChar d).printable hd))
  · rw [List.mem_singleton.mp h]
    exact .inr (by decide)

/-- **A plain value is laid out in printable lines.** -/
theorem isLaidOut_of_mem_indentedAt {depth : Nat} {v : Json} (h : IsPlain depth v)
    {indentation : Nat} {c : Char} (hc : c ∈ (indentedAt indentation v).toList) : IsLaidOut c := by
  induction h generalizing indentation c with
  | null =>
    have hall : ∀ c ∈ "null".toList, 0x20 ≤ c.toNat := by simp
    exact .inr (hall c hc)
  | bool b =>
    have hall : ∀ c ∈ "true".toList ++ "false".toList, 0x20 ≤ c.toNat := by simp
    refine .inr (hall c (List.mem_append.mpr ?_))
    cases b with
    | true => exact .inl hc
    | false => exact .inr hc
  | text s => exact isLaidOut_of_mem_writeText hc
  | list _ ih =>
    rw [indentedAt, indentedItems_eq] at hc
    refine isLaidOut_of_mem_bracketed ?_ ?_ (fun part hpart => ?_) hc
    · exact fun c hc => .inr (by fin_cases hc; decide)
    · exact fun c hc => .inr (by fin_cases hc; decide)
    · obtain ⟨item, hitem, rfl⟩ := List.mem_map.mp hpart
      exact fun c hc => ih item hitem hc
  | object _ _ ih =>
    rw [indentedAt, indentedMembers_eq] at hc
    refine isLaidOut_of_mem_bracketed ?_ ?_ (fun part hpart => ?_) hc
    · exact fun c hc => .inr (by fin_cases hc; decide)
    · exact fun c hc => .inr (by fin_cases hc; decide)
    · obtain ⟨m, hm, rfl⟩ := List.mem_map.mp hpart
      intro c hc
      unfold indentedMember at hc
      rw [String.toList_append, String.toList_append] at hc
      rcases List.mem_append.mp hc with hc | hc
      · rcases List.mem_append.mp hc with hc | hc
        · exact isLaidOut_of_mem_writeText hc
        · exact .inr (by fin_cases hc <;> decide)
      · exact ih m hm hc

/-- No line of a document ends with a carriage return, so its lines are stored as they are. -/
theorem unifyNewlines_indented {v : Json} {depth : Nat} (h : IsPlain depth v) :
    unifyNewlines (v.indented ++ "\n").toList = (v.indented ++ "\n").toList := by
  have hplain : ∀ c ∈ (v.indented ++ "\n").toList, c ≠ '\r' := by
    intro c hc
    rw [String.toList_append] at hc
    have hlaid : IsLaidOut c := by
      rcases List.mem_append.mp hc with hc | hc
      · exact isLaidOut_of_mem_indentedAt h hc
      · exact .inl (List.mem_singleton.mp hc)
    rintro rfl
    exact absurd hlaid (by decide)
  generalize (v.indented ++ "\n").toList = s at hplain
  induction s with
  | nil => rfl
  | cons c s ih =>
    have hc : c ≠ '\r' := hplain c List.mem_cons_self
    rw [unifyNewlines, ih fun d hd => hplain d (List.mem_cons_of_mem _ hd)]
    · simp [hc]
    · exact fun rest h _ => absurd h hc

end PrefixDelegation.Json
