/-!
# Emoji of several characters

The table pairs each emoji with its names, which are separated by blanks: families, couples, and
people with a trade or a trait, joined into one picture.
-/

namespace PrefixDelegation.Console.Emoji

/-- The emoji of this module, with their names. -/
def sequences : List (String × String) :=
  [
   ("🏳\ufe0f\u200d🌈", "rainbow_flag"), ("🏴\u200d☠\ufe0f", "pirate_flag"),
   ("🐕\u200d🦺", "service_dog"), ("👁\ufe0f\u200d🗨\ufe0f", "eye_in_speech_bubble"),
   ("👨\u200d❤\ufe0f\u200d👨", "couple_with_heart_man_man"),
   ("👨\u200d❤\ufe0f\u200d💋\u200d👨", "kiss_man_man"), ("👨\u200d👦", "family_man_boy"),
   ("👨\u200d👦\u200d👦", "family_man_boy_boy"), ("👨\u200d👧", "family_man_girl"),
   ("👨\u200d👧\u200d👦", "family_man_girl_boy"), ("👨\u200d👧\u200d👧", "family_man_girl_girl"),
   ("👨\u200d👨\u200d👦", "family_man_man_boy"),
   ("👨\u200d👨\u200d👦\u200d👦", "family_man_man_boy_boy"),
   ("👨\u200d👨\u200d👧", "family_man_man_girl"),
   ("👨\u200d👨\u200d👧\u200d👦", "family_man_man_girl_boy"),
   ("👨\u200d👨\u200d👧\u200d👧", "family_man_man_girl_girl"),
   ("👨\u200d👩\u200d👦", "family_man_woman_boy"),
   ("👨\u200d👩\u200d👦\u200d👦", "family_man_woman_boy_boy"),
   ("👨\u200d👩\u200d👧", "family_man_woman_girl"),
   ("👨\u200d👩\u200d👧\u200d👦", "family_man_woman_girl_boy"),
   ("👨\u200d👩\u200d👧\u200d👧", "family_man_woman_girl_girl"),
   ("👨\u200d🦯", "man_with_probing_cane"), ("👨\u200d🦰", "red-haired_man"),
   ("👨\u200d🦱", "curly-haired_man"), ("👨\u200d🦲", "bald_man"), ("👨\u200d🦳", "white-haired_man"),
   ("👨\u200d🦼", "man_in_motorized_wheelchair"), ("👨\u200d🦽", "man_in_manual_wheelchair"),
   ("👩\u200d❤\ufe0f\u200d👨", "couple_with_heart_woman_man"),
   ("👩\u200d❤\ufe0f\u200d👩", "couple_with_heart_woman_woman"),
   ("👩\u200d❤\ufe0f\u200d💋\u200d👨", "kiss_woman_man"),
   ("👩\u200d❤\ufe0f\u200d💋\u200d👩", "kiss_woman_woman"), ("👩\u200d👦", "family_woman_boy"),
   ("👩\u200d👦\u200d👦", "family_woman_boy_boy"), ("👩\u200d👧", "family_woman_girl"),
   ("👩\u200d👧\u200d👦", "family_woman_girl_boy"), ("👩\u200d👧\u200d👧", "family_woman_girl_girl"),
   ("👩\u200d👩\u200d👦", "family_woman_woman_boy"),
   ("👩\u200d👩\u200d👦\u200d👦", "family_woman_woman_boy_boy"),
   ("👩\u200d👩\u200d👧", "family_woman_woman_girl"),
   ("👩\u200d👩\u200d👧\u200d👦", "family_woman_woman_girl_boy"),
   ("👩\u200d👩\u200d👧\u200d👧", "family_woman_woman_girl_girl"),
   ("👩\u200d🦯", "woman_with_probing_cane"), ("👩\u200d🦰", "red-haired_woman"),
   ("👩\u200d🦱", "curly-haired_woman"), ("👩\u200d🦲", "bald_woman"),
   ("👩\u200d🦳", "white-haired_woman"), ("👩\u200d🦼", "woman_in_motorized_wheelchair"),
   ("👩\u200d🦽", "woman_in_manual_wheelchair"), ("👯\u200d♀\ufe0f", "women_with_bunny_ears"),
   ("👯\u200d♂\ufe0f", "men_with_bunny_ears"), ("🤼\u200d♀\ufe0f", "women_wrestling"),
   ("🤼\u200d♂\ufe0f", "men_wrestling"), ("🧑\u200d🤝\u200d🧑", "people_holding_hands"),
   ("🧞\u200d♀\ufe0f", "woman_genie"), ("🧞\u200d♂\ufe0f", "man_genie"),
   ("🧟\u200d♀\ufe0f", "woman_zombie"), ("🧟\u200d♂\ufe0f", "man_zombie")
  ]

end PrefixDelegation.Console.Emoji
