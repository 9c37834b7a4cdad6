import PrefixDelegation.Command.Show
import PrefixDelegation.Proofs.Command.Opening
import PrefixDelegation.Proofs.Console.PlainText
import PrefixDelegation.Proofs.Traversal

/-!
# Lease files that cannot be read

`show` tells the user about files that are not there, texts that are not JSON, and moments and
networks that cannot be read. It does not expect values of the wrong kind. A document that has one
where the reader comes to it is *misshapen* (`Lease.Misshapen`), and so `show` copes with a file
exactly if its text is not nested too deeply and its document is not misshapen
(`showLease_copes_iff`). Then it says what is wrong and ends with a status, provided that what it says
has no markup of its own, and otherwise the program crashes.
-/

namespace PrefixDelegation

open Calendar Address

namespace Lease

open Json (memberOrNull)

/-! ### Documents of the wrong shape -/

/-- A value that is neither blank nor made of parts: true, or a number other than zero. -/
inductive Unparted : Json → Prop
  | yes : Unparted (.bool true)
  | whole {n : Int} (nonzero : n ≠ 0) : Unparted (.whole n)
  | real {x : Float} (nonzero : (x == 0.0) = false) : Unparted (.real x)

/-- The moment of a document can be read, or there is none. -/
def HasMoment (members : List (String × Json)) : Prop :=
  ∃ m, momentOf (memberOrNull members "valid_until") = .ok m

/-- The networks of a document can be read. -/
def HasNetworks (members : List (String × Json)) : Prop :=
  ∃ items networks, partsOf (memberOrNull members "prefixes") = .ok items ∧
    items.mapM networkOf = .ok networks

/-- **A document of the wrong shape**: where the reader comes to it, a value is of a kind that cannot
stand there. -/
inductive Misshapen : Json → Prop
  /-- The document is not made of named members. -/
  | unnamed {document : Json} (kind : ∀ members, document ≠ .object members) : Misshapen document
  /-- The moment is neither blank nor a text. -/
  | moment {members : List (String × Json)}
      (given : (memberOrNull members "valid_until").isBlank = false)
      (kind : ∀ s, memberOrNull members "valid_until" ≠ .text s) : Misshapen (.object members)
  | networks {members : List (String × Json)} (moment : HasMoment members)
      (kind : Unparted (memberOrNull members "prefixes")) : Misshapen (.object members)
  /-- Behind networks that can be read stands something that is no text. -/
  | network {members : List (String × Json)} {before after : List Json} {item : Json}
      (moment : HasMoment members)
      (items : partsOf (memberOrNull members "prefixes") = .ok (before ++ item :: after))
      (readable : ∀ item ∈ before, ∃ n, networkOf item = .ok n) (kind : ∀ s, item ≠ .text s) :
      Misshapen (.object members)
  | nameServers {members : List (String × Json)} (moment : HasMoment members)
      (networks : HasNetworks members) (kind : Unparted (memberOrNull members "dns")) :
      Misshapen (.object members)

/-- A content that makes reading go wrong: it is nested too deeply, or its document is misshapen. -/
def Derails (nesting : Json.Nesting) (content : String) : Prop :=
  Json.read nesting content = .error .tooDeep ∨
    ∃ document, Json.read nesting content = .ok document ∧ Misshapen document

end Lease

namespace Command

open Lease
open Json (memberOrNull)

variable {value item document : Json} {fault : Fault} {members : List (String × Json)}

/-! ### What each part fails with -/

/-- Parts cannot be taken of what has none. -/
theorem partsOf_eq_error : partsOf value = .error fault ↔ fault = .wrongKind ∧ Unparted value := by
  constructor
  · intro h
    cases value with
    | list | object | text | null => cases h
    | bool b =>
      cases b with
      | false => cases h
      | true =>
        cases h
        exact ⟨rfl, .yes⟩
    | whole n =>
      by_cases hn : n = 0
      · subst hn
        cases h
      · simp only [partsOf, Json.isBlank, beq_eq_false_iff_ne.mpr hn] at h
        cases h
        exact ⟨rfl, .whole hn⟩
    | real x =>
      rcases hx : x == 0.0 with _ | _
      · simp only [partsOf, Json.isBlank, hx] at h
        cases h
        exact ⟨rfl, .real hx⟩
      · simp only [partsOf, Json.isBlank, hx] at h
        cases h
  · rintro ⟨rfl, hunparted⟩
    cases hunparted with
    | yes => rfl
    | whole hn => simp [partsOf, Json.isBlank, hn]
    | real hx => simp [partsOf, Json.isBlank, hx]

/-- The user is told of a moment that cannot be read, unless it is no text. -/
theorem isUnreadable_of_momentOf (h : momentOf value = .error fault) :
    isUnreadable fault = true ∨ value.isBlank = false ∧ ∀ s, value ≠ .text s := by
  unfold momentOf at h
  rcases hblank : value.isBlank with _ | _
  · rw [hblank, if_neg Bool.false_ne_true] at h
    cases value with
    | text s =>
      rcases hread : Moment.read s with e | m
      · simp only [hread] at h
        cases h
        exact .inl rfl
      · simp only [hread] at h
        cases h
    | _ => exact .inr ⟨rfl, fun s hs => by cases hs⟩
  · rw [hblank, if_pos rfl] at h
    cases h

theorem momentOf_of_kind (hgiven : value.isBlank = false) (h : ∀ s, value ≠ .text s) :
    momentOf value = .error .wrongKind := by
  unfold momentOf
  rw [hgiven, if_neg Bool.false_ne_true]
  split
  · next s => exact absurd rfl (h s)
  · rfl

/-- The user is told of a network that cannot be read, unless it is no text. -/
theorem isUnreadable_of_networkOf (h : networkOf item = .error fault) :
    isUnreadable fault = true ∨ ∀ s, item ≠ .text s := by
  cases item with
  | text s =>
    rw [networkOf] at h
    rcases hread : Network.read s with e | n
    · rw [hread] at h
      cases h
      exact .inl rfl
    · rw [hread] at h
      cases h
  | _ => exact .inr fun s hs => by cases hs

theorem networkOf_of_kind (h : ∀ s, item ≠ .text s) : networkOf item = .error .wrongKind := by
  unfold networkOf
  split
  · next s => exact absurd rfl (h s)
  · rfl

/-! ### What a document fails with -/

/-- **A document fails with the first of its parts that fails**: the moment, the networks one by one,
the name servers. -/
theorem ofJson_object_eq_error : ofJson (.object members) = .error fault ↔
    momentOf (memberOrNull members "valid_until") = .error fault ∨
    HasMoment members ∧ (partsOf (memberOrNull members "prefixes") = .error fault ∨
      ∃ items, partsOf (memberOrNull members "prefixes") = .ok items ∧
        (items.mapM networkOf = .error fault ∨
          (∃ networks, items.mapM networkOf = .ok networks) ∧
            partsOf (memberOrNull members "dns") = .error fault)) := by
  unfold ofJson HasMoment
  dsimp only
  rcases momentOf (memberOrNull members "valid_until") with e | m
  · simp [bind, Except.bind]
  rcases partsOf (memberOrNull members "prefixes") with e | items
  · simp [bind, Except.bind]
  rcases hwalk : items.mapM networkOf with e | networks
  · simp [bind, Except.bind, hwalk]
  rcases partsOf (memberOrNull members "dns") with e | servers
  · simp [bind, Except.bind, hwalk]
  · simp [bind, Except.bind, hwalk, pure, Except.pure]

/-- Reading a misshapen document fails, and the user is not told. -/
theorem ofJson_of_misshapen (h : Misshapen document) :
    ∃ fault, ofJson document = .error fault ∧ isUnreadable fault = false := by
  cases h with
  | unnamed kind =>
    refine ⟨.notAnObject, ?_, rfl⟩
    unfold ofJson
    split
    · exact absurd rfl (kind _)
    · rfl
  | moment given kind =>
    exact ⟨.wrongKind, ofJson_object_eq_error.mpr (.inl (momentOf_of_kind given kind)), rfl⟩
  | networks moment kind =>
    have hparts := partsOf_eq_error.mpr ⟨rfl, kind⟩
    exact ⟨.wrongKind, ofJson_object_eq_error.mpr (.inr ⟨moment, .inl hparts⟩), rfl⟩
  | @network _ before after item moment items readable kind =>
    have hwalk := mapM_eq_error_iff.mpr
      ⟨before, item, after, rfl, readable, networkOf_of_kind kind⟩
    exact ⟨.wrongKind, ofJson_object_eq_error.mpr (.inr ⟨moment, .inr ⟨_, items, .inl hwalk⟩⟩), rfl⟩
  | nameServers moment networks kind =>
    obtain ⟨items, ns, hitems, hns⟩ := networks
    have hparts := partsOf_eq_error.mpr ⟨rfl, kind⟩
    exact ⟨.wrongKind, ofJson_object_eq_error.mpr
      (.inr ⟨moment, .inr ⟨items, hitems, .inr ⟨⟨ns, hns⟩, hparts⟩⟩⟩), rfl⟩

/-- **A document that the user is not told of is misshapen.** -/
theorem misshapen_of_ofJson (h : ofJson document = .error fault)
    (htold : isUnreadable fault = false) : Misshapen document := by
  have hnot : ¬ isUnreadable fault = true := by simp [htold]
  by_cases hobject : ∃ members, document = .object members
  · obtain ⟨members, rfl⟩ := hobject
    rcases ofJson_object_eq_error.mp h with
      hmoment | ⟨hmoment, hparts | ⟨items, hitems, hwalk | ⟨hnetworks, hparts⟩⟩⟩
    · obtain ⟨hgiven, hkind⟩ := (isUnreadable_of_momentOf hmoment).resolve_left hnot
      exact .moment hgiven hkind
    · exact .networks hmoment (partsOf_eq_error.mp hparts).2
    · obtain ⟨before, item, after, rfl, hreadable, hitem⟩ := mapM_eq_error_iff.mp hwalk
      exact .network hmoment hitems hreadable ((isUnreadable_of_networkOf hitem).resolve_left hnot)
    · obtain ⟨networks, hnetworks⟩ := hnetworks
      exact .nameServers hmoment ⟨items, networks, hitems, hnetworks⟩ (partsOf_eq_error.mp hparts).2
  · exact .unnamed fun members hmembers => hobject ⟨members, hmembers⟩

/-! ### What a file fails with -/

/-- A path leads nowhere because of a refusal, or because it is none. -/
theorem isUnreadable_of_locate {f : Files} {p : Path} (h : f.locate p = .error fault) :
    isUnreadable fault = true := by
  unfold Files.locate at h
  split at h
  · cases h
    rfl
  split at h
  · cases h
    rfl
  rcases hfollow : f.follow (f.start p) p.names with e | place
  · rw [hfollow] at h
    cases h
    rfl
  · rw [hfollow] at h
    cases h

/-- The user is told of a file that cannot be found. -/
theorem isUnreadable_of_read {f : Files} {p : Path} (h : f.read p = .error fault) :
    isUnreadable fault = true := by
  unfold Files.read at h
  split at h
  · cases h
    rfl
  · next hlocate =>
    cases h
    exact isUnreadable_of_locate hlocate
  · split at h
    · cases h
    · cases h
      rfl

/-- The user is told of a text that is no document, unless it is nested too deeply. -/
theorem isUnreadable_json (e : Json.ReadError) : isUnreadable (.json e) = false ↔ e = .tooDeep := by
  simp [isUnreadable, Fault.isInValue]

/-- **A file that the user is not told of** is there, and its content derails the reader. -/
theorem load_eq_error {nesting : Json.Nesting} {f : Files} {p : Path} :
    (∃ fault, load nesting f p = .error fault ∧ isUnreadable fault = false) ↔
      ∃ content, f.read p = .ok content ∧ Derails nesting content := by
  unfold load ofFileContent Derails
  rcases hread : f.read p with fault | content
  · have htold := isUnreadable_of_read hread
    simp [bind, Except.bind, htold]
  rcases hjson : Json.read nesting content with e | document
  · simp [bind, Except.bind, Except.mapError, hjson, isUnreadable_json]
  · simp only [bind, Except.bind, Except.mapError, hjson, Except.ok.injEq, exists_eq_left',
      reduceCtorEq, false_or]
    exact ⟨fun ⟨_, h, htold⟩ => misshapen_of_ofJson h htold, ofJson_of_misshapen⟩

/-! ### What `show` makes of it -/

/-- A text without brackets can be said, unless its last character escapes what follows it. -/
theorem onConsole_red {text : String} (h : '[' ∉ text.toList)
    (hlast : text.toList.getLast? ≠ some '\\') : ∃ shown, onConsole "red" text = .ok shown := by
  obtain ⟨shown, hshown⟩ := Console.Markup.plain_red h hlast
  have hmarked : ("[" ++ "red" ++ "]" ++ text ++ "[/" ++ "red" ++ "]").toList
      = "[red]".toList ++ text.toList ++ "[/red]".toList := by
    simp [String.toList_append]
  refine ⟨consoleLines shown, ?_⟩
  unfold onConsole
  dsimp only
  rw [hmarked, hshown]
  rfl

/-- The file that `show` looks at: the one that it is given, or else the one that is settled. -/
def LooksAt (o : ShowOptions) (w : Work σ) (path : String) : Prop :=
  ∃ settings, (w.shell.preferences.settle w.shell.files).1 = .ok settings ∧
    (Text.nonempty? o.path).or settings.leaseFile = some path

/-- What `show` says about a file that it cannot read. -/
def unreadableNotice (path : String) (fault : Fault) : String :=
  "Could not read " ++ (Path.read path).write ++ ": " ++ fault.message

section Showing

variable {σ : Type} {o : ShowOptions} {w : Work σ} {path : String}

/-- `show` looks at the file, and goes on with what came of that. -/
theorem run_showLease_of_fault (hlooks : LooksAt o w path)
    (h : Lease.load w.shell.nesting w.shell.files (.read path) = .error fault) :
    ∃ preferences, (showLease o).run w = (if isUnreadable fault then do
        complain (unreadableNotice path fault)
        exit 1
      else throw (.crash fault) : Act σ Unit).run
        { w with shell := { w.shell with preferences } } := by
  obtain ⟨settings, hsettled, hpath⟩ := hlooks
  refine ⟨(w.shell.preferences.settle w.shell.files).2, ?_⟩
  unfold showLease
  rw [Act.run_bind, run_leasePath, hsettled]
  simp only [Except.mapError, Except.map, hpath, Act.run_bind, Act.run_get, h]
  rfl

/-- **How `show` ends where no lease can be loaded.** -/
structure EndsWith (o : ShowOptions) (w : Work σ) (path : String) (fault : Fault) : Prop where
  /-- What the user is told is said, and the program ends with a status. -/
  said : isUnreadable fault = true → ∀ shown,
    onConsole "red" (unreadableNotice path fault) = .ok shown →
    ∃ w', (showLease o).run w = (.error (.exit 1), w') ∧
      w'.shell.notices = w.shell.notices ++ [.plain shown] ∧ w'.shell.output = w.shell.output
  /-- What has markup of its own that cannot be shown ends the program. -/
  unsaid : isUnreadable fault = true → ∀ fault',
    onConsole "red" (unreadableNotice path fault) = .error fault' →
    ∃ w', (showLease o).run w = (.error (.crash fault'), w')
  /-- Without brackets there is no markup. -/
  sayable : '[' ∉ (unreadableNotice path fault).toList →
    (unreadableNotice path fault).toList.getLast? ≠ some '\\' →
    ∃ shown, onConsole "red" (unreadableNotice path fault) = .ok shown
  /-- What the user is not told ends the program. -/
  unexpected : isUnreadable fault = false →
    ∃ w', (showLease o).run w = (.error (.crash fault), w')

theorem endsWith_of_fault (hlooks : LooksAt o w path)
    (h : Lease.load w.shell.nesting w.shell.files (.read path) = .error fault) :
    EndsWith o w path fault := by
  obtain ⟨preferences, hrun⟩ := run_showLease_of_fault hlooks h
  refine ⟨fun htold shown hshown => ?_, fun htold fault' hunsaid => ?_, onConsole_red,
    fun htold => ?_⟩
  · rw [hrun, if_pos htold, Act.run_bind, complain, run_tell, hshown]
    exact ⟨_, rfl, rfl, rfl⟩
  · rw [hrun, if_pos htold, Act.run_bind, complain, run_tell, hunsaid]
    exact ⟨_, rfl⟩
  · rw [hrun, if_neg (by simp [htold])]
    exact ⟨_, rfl⟩

/-- **Which lease files `show` copes with.** Reading the file comes to a lease, or to a fault that
`show` tells the user, exactly if its content does not derail the reader. A fault that `show` tells is
said, and the program ends with a status; only if what is to be said has markup of its own that cannot
be shown, the program crashes. With every other fault it crashes. -/
theorem showLease_copes_iff (hlooks : LooksAt o w path) :
    (((∃ l, Lease.load w.shell.nesting w.shell.files (.read path) = .ok l) ∨
        ∃ fault, Lease.load w.shell.nesting w.shell.files (.read path) = .error fault ∧
          isUnreadable fault = true) ↔
      ∀ content, w.shell.files.read (.read path) = .ok content →
        ¬ Derails w.shell.nesting content) ∧
    ∀ fault, Lease.load w.shell.nesting w.shell.files (.read path) = .error fault →
      EndsWith o w path fault := by
  refine ⟨?_, fun fault h => endsWith_of_fault hlooks h⟩
  have hderails : (∃ fault, Lease.load w.shell.nesting w.shell.files (.read path) = .error fault ∧
      isUnreadable fault = false) ↔ _ := load_eq_error
  rcases hload : Lease.load w.shell.nesting w.shell.files (.read path) with fault | l
  · simp only [hload, Except.error.injEq, exists_eq_left', reduceCtorEq, exists_false,
      false_or] at hderails ⊢
    rw [← Bool.not_eq_false, hderails]
    simp only [not_exists, not_and]
  · simp only [hload, reduceCtorEq, false_and, exists_false, false_iff, Except.ok.injEq,
      exists_eq', true_or, true_iff] at hderails ⊢
    exact fun content hread hcontent => hderails ⟨content, hread, hcontent⟩

end Showing

/-- The fault that loading a lease fails with. -/
def loadFault? (nesting : Json.Nesting) (f : Files) (p : Path) : Option Fault :=
  match Lease.load nesting f p with
  | .ok _ => none
  | .error fault => some fault

theorem loadFault?_eq_some {nesting : Json.Nesting} {f : Files} {p : Path} :
    loadFault? nesting f p = some fault ↔ Lease.load nesting f p = .error fault := by
  unfold loadFault?
  split <;> simp_all

/-- The small machine with a lease file below the root. -/
def smallKeeping (text : String) : Work Network :=
  { smallWork 56 with shell :=
    { (smallWork 56).shell with files := ⟨[], [], [(["b"], ⟨text, []⟩)], []⟩ } }

/-- A file that holds no document. The user is told, and nothing crashes. -/
theorem showLease_copes_of_plain_text :
    ∃ w', (showLease ⟨some "/b", false⟩).run (smallKeeping "not json")
        = (.error (.exit 1), w') ∧
      w'.shell.notices = [.plain "Could not read /b: Expecting value: line 1 column 1 (char 0)\n"] := by
  have hlooks : LooksAt ⟨some "/b", false⟩ (smallKeeping "not json") "/b" := ⟨{}, rfl, rfl⟩
  have hload : Lease.load (smallKeeping "not json").shell.nesting
      (smallKeeping "not json").shell.files (.read "/b") = .error (.json (.malformed ⟨.expectingValue, 1, 1, 0⟩)) :=
    loadFault?_eq_some.mp (by decide +kernel)
  have hends := (showLease_copes_iff hlooks).2 _ hload
  obtain ⟨shown, hshown⟩ := hends.sayable (by decide +kernel) (by decide +kernel)
  obtain ⟨w', hrun, hnotices, -⟩ := hends.said rfl shown hshown
  have htext : (onConsole "red" (unreadableNotice "/b"
      (.json (.malformed ⟨.expectingValue, 1, 1, 0⟩)))).toOption
      = some "Could not read /b: Expecting value: line 1 column 1 (char 0)\n" := by decide +kernel
  rw [hshown] at htext
  obtain rfl := Option.some.inj htext
  exact ⟨w', hrun, hnotices⟩

/-- A file whose document has a number where the moment should be. -/
def numericMoment : String := "\x7b\"valid_until\": 1700000000, \"prefixes\": [], \"dns\": []\x7d"

/-- A moment that is a number is of the wrong kind, and the program crashes. -/
theorem showLease_crashes_of_numeric_moment :
    Lease.load (smallKeeping numericMoment).shell.nesting
        (smallKeeping numericMoment).shell.files (.read "/b") = .error .wrongKind ∧
      isUnreadable .wrongKind = false ∧
      ∃ w', (showLease ⟨some "/b", false⟩).run (smallKeeping numericMoment)
        = (.error (.crash .wrongKind), w') := by
  have hlooks : LooksAt ⟨some "/b", false⟩ (smallKeeping numericMoment) "/b" := ⟨{}, rfl, rfl⟩
  have hload : Lease.load (smallKeeping numericMoment).shell.nesting
      (smallKeeping numericMoment).shell.files (.read "/b")
      = .error .wrongKind := loadFault?_eq_some.mp (by decide +kernel)
  exact ⟨hload, rfl, (endsWith_of_fault hlooks hload).unexpected rfl⟩

end Command

end PrefixDelegation
