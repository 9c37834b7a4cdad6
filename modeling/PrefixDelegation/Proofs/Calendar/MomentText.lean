import Mathlib.Data.List.TakeDrop
import PrefixDelegation.Calendar.IsoText
import PrefixDelegation.Proofs.Calendar.Days
import PrefixDelegation.Proofs.Text.Digits

/-!
# Moments are read back

The canonical text of a moment of universal time is read as that moment (`Moment.read_write`). The
reader goes through the text from the front, so there is one lemma for each part, with anything
behind it: `takeDigits?_fixed` for a field, `readDate?_writeDate` for the date, `readTime?_writeTime`
for the time of day. What separates the time from the offset is a sign, and no part of a time is one
(`span_writeTime`).

The fields are in their ranges since the date of a day exists and a day has 86400 seconds, four
digits are enough for every year of the calendar, and the fraction of a second has six digits unless
there is none.
-/

namespace PrefixDelegation.Calendar

open Text

/-! ### Fields -/

/-- **A field is read back**, whatever follows it. -/
theorem takeDigits?_fixed {width n : Nat} (h : n < 10 ^ width) (rest : List Char) :
    takeDigits? width (fixed 10 width n ++ rest) = some (n, rest) := by
  have hlen := length_fixed 10 width n
  unfold takeDigits?
  dsimp only
  rw [if_neg (by rw [List.length_append, hlen]; omega), List.take_left' hlen,
    List.drop_left' hlen, decimalValue?_fixed h]
  rfl

/-- A field of two digits. -/
theorem fixed_two (n : Nat) : fixed 10 2 n = [digitChar (n / 10 % 10), digitChar (n % 10)] := rfl

theorem digitChar_ne {d : Nat} (h : d < 10) {c : Char} (hc : decimalDigit? c = none) :
    digitChar d ≠ c := by
  rintro rfl
  rw [decimalDigit?_digitChar h] at hc
  cases hc

/-! ### The date -/

/-- **The date is read back.** -/
theorem readDate?_writeDate {d : Date} (hyear : d.year < yearLimit) (hdate : d.IsDate) :
    readDate? (writeDate d) = some (.ofMonth d.year d.month d.day) := by
  have hmonth : d.month < 10 ^ 2 := Nat.lt_of_le_of_lt hdate.month_le (by decide)
  have hday : d.day < 10 ^ 2 :=
    Nat.lt_of_le_of_lt (Nat.le_trans hdate.day_le (Date.daysInMonth_le _ _)) (by decide)
  have hnoweek : digitChar (d.month / 10 % 10) ≠ 'W' :=
    digitChar_ne (Nat.mod_lt _ (by decide)) (by decide)
  have hmonthday : takeDigits? 2 (fixed 10 2 d.month ++ '-' :: fixed 10 2 d.day)
      = some (d.month, '-' :: fixed 10 2 d.day) := takeDigits?_fixed hmonth _
  have hlast : takeDigits? 2 (fixed 10 2 d.day) = some (d.day, []) := by
    have h := takeDigits?_fixed hday []
    rwa [List.append_nil] at h
  unfold readDate? writeDate
  -- behind the year and a dash stands a week or a month, and a month starts with a digit
  rw [List.append_assoc, List.cons_append, takeDigits?_fixed hyear]
  simp only [Option.bind_eq_bind, Option.bind_some, List.head?_cons, beq_self_eq_true, if_true,
    List.drop_succ_cons, List.drop_zero]
  split
  · next rest heq =>
    rw [fixed_two] at heq
    exact absurd (List.cons.inj heq).1 hnoweek
  · rw [hmonthday]
    simp [hlast]

/-- A calendar date with dashes is ten characters long. -/
theorem dateLength?_writeDate (d : Date) (rest : List Char) :
    dateLength? (writeDate d ++ 'T' :: rest) = some 10 := by
  have hnoweek : digitChar (d.month / 10 % 10) ≠ 'W' :=
    digitChar_ne (Nat.mod_lt _ (by decide)) (by decide)
  have hlen : (writeDate d).length = 10 := by simp [writeDate, length_fixed]
  have hfive : (writeDate d ++ 'T' :: rest)[5]? = some (digitChar (d.month / 10 % 10)) := rfl
  have hfour : (writeDate d ++ 'T' :: rest)[4]? = some '-' := rfl
  unfold dateLength?
  dsimp only
  rw [if_neg (by rw [List.length_append, hlen]; omega),
    if_neg (by rw [List.length_append, List.length_cons, hlen]; omega),
    if_pos (by rw [hfour]; decide), if_neg (by rw [hfive]; simpa using hnoweek)]

/-! ### The time of day -/

/-- A day has 86400 seconds. -/
theorem seconds_lt {micros : Nat} (h : micros < microsPerDay) : micros / microsPerSecond < 86400 := by
  refine Nat.div_lt_of_lt_mul ?_
  rw [Nat.mul_comm]
  exact h

/-- The fields of a time of day, as it is written before an offset. -/
def fieldsOf (micros : Nat) : WrittenTime where
  hour := micros / microsPerSecond / 3600
  minute := micros / microsPerSecond / 60 % 60
  second := micros / microsPerSecond % 60
  micros := micros % microsPerSecond
  complete := false

/-- The fields make up the time. -/
theorem total_fieldsOf (micros : Nat) : (fieldsOf micros).total = micros := by
  unfold WrittenTime.total fieldsOf
  have hsplit := Nat.div_add_mod micros microsPerSecond
  generalize micros / microsPerSecond = seconds at hsplit ⊢
  have hseconds : 3600 * (seconds / 3600) + 60 * (seconds / 60 % 60) + seconds % 60 = seconds := by
    omega
  rw [hseconds, Nat.mul_comm]
  exact hsplit

/-- The fields of a time of day are in their ranges. -/
theorem toMicros_fieldsOf {micros : Nat} (h : micros < microsPerDay) :
    (fieldsOf micros).toMicros = .ok micros := by
  have hhour : ¬ (fieldsOf micros).hour > 23 := by
    have hle : micros / microsPerSecond / 3600 < 24 := Nat.div_lt_of_lt_mul (seconds_lt h)
    exact Nat.not_lt.mpr (Nat.le_of_lt_succ hle)
  have hminute : ¬ (fieldsOf micros).minute > 59 :=
    Nat.not_lt.mpr (Nat.le_of_lt_succ (Nat.mod_lt _ (by decide)))
  have hsecond : ¬ (fieldsOf micros).second > 59 :=
    Nat.not_lt.mpr (Nat.le_of_lt_succ (Nat.mod_lt _ (by decide)))
  unfold WrittenTime.toMicros
  rw [if_neg hhour, if_neg hminute, if_neg hsecond, total_fieldsOf]

/-- **The fraction is read back.** -/
theorem readFraction?_fixed {micros : Nat} (h : micros < microsPerSecond) :
    readFraction? (fixed 10 6 micros) true = some (micros, false) := by
  have hlen := length_fixed 10 6 micros
  have htake : takeDigits? 6 (fixed 10 6 micros) = some (micros, []) := by
    have hsix : micros < 10 ^ 6 := h
    have hread := takeDigits?_fixed hsix []
    rwa [List.append_nil] at hread
  unfold readFraction?
  simp [hlen, htake]

theorem afterField?_colon (more : Bool) {rest : List Char} (h : rest ≠ []) :
    afterField? true more (':' :: rest) = some (.field rest) := by
  obtain ⟨c, rest, rfl⟩ := List.exists_cons_of_ne_nil h
  rfl

theorem fixed_append_ne_nil {width n : Nat} (h : 0 < width) (rest : List Char) :
    fixed 10 width n ++ rest ≠ [] := by
  refine List.append_ne_nil_of_left_ne_nil (List.ne_nil_of_length_pos ?_) _
  rw [length_fixed]
  exact h

/-- **The time of day is read back**, before an offset. -/
theorem readTime?_writeTime {micros : Nat} (h : micros < microsPerDay) :
    readTime? (writeTime micros) true = some (fieldsOf micros) := by
  have hfraction : micros % microsPerSecond < microsPerSecond := Nat.mod_lt _ (by decide)
  have hseconds := seconds_lt h
  unfold writeTime fieldsOf
  dsimp only
  -- the text is one of whole seconds and of their fraction, wherever these come from
  generalize micros / microsPerSecond = seconds at hseconds ⊢
  generalize micros % microsPerSecond = fraction at hfraction ⊢
  have hhour : seconds / 3600 < 10 ^ 2 := Nat.div_lt_of_lt_mul (by omega)
  have hminute : seconds / 60 % 60 < 10 ^ 2 := Nat.lt_trans (Nat.mod_lt _ (by decide)) (by decide)
  have hsecond : seconds % 60 < 10 ^ 2 := Nat.lt_trans (Nat.mod_lt _ (by decide)) (by decide)
  rw [List.append_assoc, List.append_assoc, List.cons_append, List.cons_append]
  unfold readTime?
  rw [takeDigits?_fixed hhour]
  simp only [Option.bind_eq_bind, Option.bind_some, List.head?_cons, beq_self_eq_true,
    afterField?_colon true (fixed_append_ne_nil (by decide : 0 < 2) _), takeDigits?_fixed hminute,
    takeDigits?_fixed hsecond]
  -- what follows the seconds is nothing, or a point and six digits
  by_cases hzero : fraction = 0
  · rw [writeFraction, if_pos hzero, hzero]
    rfl
  · have hpoint : afterField? true true ('.' :: fixed 10 6 fraction)
        = some (.fraction (fixed 10 6 fraction)) := rfl
    rw [writeFraction, if_neg hzero, hpoint]
    simp [readFraction?_fixed hfraction]

/-! ### The time and its offset -/

/-- What a time of day is written with. -/
theorem mem_writeTime {micros : Nat} {c : Char} (h : c ∈ writeTime micros) :
    (∃ d < 10, c = digitChar d) ∨ c = ':' ∨ c = '.' := by
  have hfield : ∀ {width n}, c ∈ fixed 10 width n →
      (∃ d < 10, c = digitChar d) ∨ c = ':' ∨ c = '.' := fun hmem =>
    .inl (mem_fixed (by decide) hmem)
  have hfraction : ∀ {n}, c ∈ writeFraction n →
      (∃ d < 10, c = digitChar d) ∨ c = ':' ∨ c = '.' := by
    intro n hmem
    unfold writeFraction at hmem
    split at hmem
    · cases hmem
    · rcases List.mem_cons.mp hmem with rfl | hmem
      · exact .inr (.inr rfl)
      · exact hfield hmem
  unfold writeTime at h
  simp only [List.mem_append, List.mem_cons] at h
  rcases h with ((hmem | rfl | hmem) | rfl | hmem) | hmem
  · exact hfield hmem
  · exact .inr (.inl rfl)
  · exact hfield hmem
  · exact .inr (.inl rfl)
  · exact hfield hmem
  · exact hfraction hmem

/-- Whether a character starts an offset. -/
def startsOffset (c : Char) : Bool := c == '+' || c == '-' || c == 'Z'

theorem startsOffset_writeTime {micros : Nat} {c : Char} (h : c ∈ writeTime micros) :
    startsOffset c = false := by
  have hdigit : ∀ {d}, d < 10 → startsOffset (digitChar d) = false := by
    intro d hd
    have hplus : digitChar d ≠ '+' := digitChar_ne hd (by decide)
    have hminus : digitChar d ≠ '-' := digitChar_ne hd (by decide)
    have hzulu : digitChar d ≠ 'Z' := digitChar_ne hd (by decide)
    simp [startsOffset, hplus, hminus, hzulu]
  rcases mem_writeTime h with ⟨d, hd, rfl⟩ | rfl | rfl
  · exact hdigit hd
  · rfl
  · rfl

/-- The offset of a text begins where its time of day ends. -/
theorem span_writeTime (micros : Nat) (zone : List Char) :
    (writeTime micros ++ '+' :: zone).span (fun c => !startsOffset c)
      = (writeTime micros, '+' :: zone) := by
  have hall : ∀ c ∈ writeTime micros, (!startsOffset c) = true := by
    intro c hc
    rw [startsOffset_writeTime hc]
    rfl
  rw [List.span_eq_takeWhile_dropWhile, List.takeWhile_append_of_pos hall,
    List.dropWhile_append_of_pos hall]
  simp [startsOffset]

/-- **The time and the offset are read back.** -/
theorem readZonedTime?_write {micros : Nat} (h : micros < microsPerDay) :
    readZonedTime? (writeTime micros ++ writeOffset Offset.zero)
      = some (fieldsOf micros, some 0) := by
  have hzone : writeOffset Offset.zero = '+' :: ['0', '0', ':', '0', '0'] := by
    simp [writeOffset, Offset.zero, fixed, digitChar]
  have hdistance : readTime? ['0', '0', ':', '0', '0'] false = some ⟨0, 0, 0, 0, true⟩ := rfl
  have hspan : (writeTime micros ++ '+' :: ['0', '0', ':', '0', '0']).span
      (fun c => !(c == '+' || c == '-' || c == 'Z'))
      = (writeTime micros, '+' :: ['0', '0', ':', '0', '0']) := span_writeTime micros _
  unfold readZonedTime?
  simp only [hzone, hspan, List.isEmpty_cons, Bool.not_false, readTime?_writeTime h,
    Option.bind_eq_bind, Option.bind_some]
  split
  · next heq => cases heq
  · next heq => exact absurd (List.cons.inj heq).1 (by decide)
  · next sign rest _ heq =>
    obtain ⟨rfl, rfl⟩ := List.cons.inj heq
    rw [hdistance]
    rfl

/-! ### Moments -/

/-- A date that exists is a day of the calendar. -/
theorem WrittenDate.toDays_ofMonth {d : Date} (hyear : d.year < yearLimit) (hdate : d.IsDate)
    (text : String) : WrittenDate.toDays (.ofMonth d.year d.month d.day) text = .ok d.toDays := by
  obtain ⟨year_pos, month_pos, month_le, day_pos, day_le⟩ := hdate
  have hyear' : ¬ (d.year < 1 || d.year ≥ yearLimit) = true := by
    simp only [Bool.or_eq_true, decide_eq_true_eq]
    omega
  have hmonth : ¬ (d.month < 1 || d.month > 12) = true := by
    simp only [Bool.or_eq_true, decide_eq_true_eq]
    omega
  have hday : ¬ (d.day < 1 || d.day > daysInMonth d.year d.month) = true := by
    simp only [Bool.or_eq_true, decide_eq_true_eq]
    omega
  unfold WrittenDate.toDays
  dsimp only
  rw [if_neg hyear', if_neg hmonth, if_neg hday]

/-- Parts in their ranges make up a moment. -/
theorem Moment.assemble_eq {text : String} {date : WrittenDate} {time : WrittenTime}
    {zone : Option Int} {offset : Option Offset} {days micros : Nat}
    (hoffset : zone.mapM Offset.ofMicros = .ok offset) (hdays : date.toDays text = .ok days)
    (hmicros : time.toMicros = .ok micros) (h : days * microsPerDay + micros < microLimit) :
    Moment.assemble text date time zone = .ok ⟨days * microsPerDay + micros, offset, h⟩ := by
  unfold Moment.assemble
  simp only [hoffset, hdays, hmicros, bind, Except.bind, dif_pos h]
  rfl

/-- **A moment of universal time is read back.** -/
theorem Moment.read_write {m : Moment} (h : m.offset = some Offset.zero) :
    Moment.read m.write = .ok m := by
  obtain ⟨reading, offset, bounded⟩ := m
  obtain rfl : offset = some Offset.zero := h
  have hday : reading / microsPerDay < dayLimit := Nat.div_lt_of_lt_mul (by
    rw [Nat.mul_comm]
    exact bounded)
  -- a reading is a day and a time of that day
  have hmicros : reading % microsPerDay < microsPerDay := Nat.mod_lt _ (by decide)
  have hsum : reading / microsPerDay * microsPerDay + reading % microsPerDay = reading := by
    rw [Nat.mul_comm]
    exact Nat.div_add_mod reading microsPerDay
  have hdate := Date.isDate_ofDays (reading / microsPerDay)
  have hyear := Date.year_ofDays_lt hday
  have hdays := Date.toDays_ofDays (reading / microsPerDay)
  generalize hd : Date.ofDays (reading / microsPerDay) = d at hdate hyear hdays
  have hlen : (writeDate d).length = 10 := by simp [writeDate, length_fixed]
  have hchars : (Moment.write ⟨reading, some Offset.zero, bounded⟩).toList = writeDate d ++
      'T' :: (writeTime (reading % microsPerDay) ++ writeOffset Offset.zero) := by
    simp [Moment.write, Moment.writeChars, hd]
  generalize Moment.write ⟨reading, some Offset.zero, bounded⟩ = text at hchars ⊢
  have hassemble : Moment.assemble text (.ofMonth d.year d.month d.day)
      (fieldsOf (reading % microsPerDay)) (some 0) = .ok ⟨reading, some Offset.zero, bounded⟩ := by
    have hparts := WrittenDate.toDays_ofMonth hyear hdate text
    rw [hdays] at hparts
    have hoffset : (some (0 : Int)).mapM Offset.ofMicros = .ok (some Offset.zero) := rfl
    rw [Moment.assemble_eq hoffset hparts (toMicros_fieldsOf hmicros) (by rw [hsum]; exact bounded)]
    congr 2
  -- the date is the first ten characters, and the time is behind the eleventh
  have hmore : ¬ text.toList.length ≤ 10 := by
    rw [hchars, List.length_append, hlen, List.length_cons]
    omega
  have hdrop : text.toList.drop (10 + 1)
      = writeTime (reading % microsPerDay) ++ writeOffset Offset.zero := by
    rw [hchars, ← List.drop_drop, List.drop_left' hlen]
    rfl
  unfold Moment.read
  dsimp only
  rw [hchars, dateLength?_writeDate]
  dsimp only
  rw [List.take_left' hlen, readDate?_writeDate hyear hdate]
  dsimp only
  rw [← hchars, if_neg hmore, hdrop, readZonedTime?_write hmicros]
  exact hassemble

end PrefixDelegation.Calendar
