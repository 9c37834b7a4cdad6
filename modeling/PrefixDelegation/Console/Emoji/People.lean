/-!
# Emoji of people

People, hands, and other parts of the body come in five tones of skin. The table pairs each such
emoji with its names, which are separated by blanks; the first name is the one that a tone can
follow.
-/

namespace PrefixDelegation.Console.Emoji

/-- The emoji that have tones of skin, with their names. -/
def people : List (String × String) :=
  [
   ("☝", "index_pointing_up point_up"), ("⛹", "person_bouncing_ball person_with_ball"),
   ("⛹\ufe0f\u200d♀\ufe0f", "woman_bouncing_ball"),
   ("⛹\ufe0f\u200d♂\ufe0f", "man_bouncing_ball"), ("✊", "raised_fist fist"),
   ("✋", "raised_hand hand"), ("✌", "victory_hand v"), ("✍", "writing_hand"),
   ("🎅", "santa_claus santa"), ("🏂", "snowboarder"), ("🏃", "person_running runner running"),
   ("🏃\u200d♀\ufe0f", "woman_running"), ("🏃\u200d♂\ufe0f", "man_running"),
   ("🏄", "person_surfing surfer"), ("🏄\u200d♀\ufe0f", "woman_surfing"),
   ("🏄\u200d♂\ufe0f", "man_surfing"), ("🏇", "horse_racing"), ("🏊", "person_swimming swimmer"),
   ("🏊\u200d♀\ufe0f", "woman_swimming"), ("🏊\u200d♂\ufe0f", "man_swimming"),
   ("🏋", "person_lifting_weights weight_lifter"),
   ("🏋\ufe0f\u200d♀\ufe0f", "woman_lifting_weights"),
   ("🏋\ufe0f\u200d♂\ufe0f", "man_lifting_weights"), ("🏌", "person_golfing golfer"),
   ("🏌\ufe0f\u200d♀\ufe0f", "woman_golfing"), ("🏌\ufe0f\u200d♂\ufe0f", "man_golfing"),
   ("👂", "ear"), ("👃", "nose"), ("👆", "backhand_index_pointing_up point_up_2"),
   ("👇", "backhand_index_pointing_down point_down"),
   ("👈", "backhand_index_pointing_left point_left"),
   ("👉", "backhand_index_pointing_right point_right"), ("👊", "oncoming_fist facepunch punch"),
   ("👋", "waving_hand wave"), ("👌", "ok_hand"), ("👍", "thumbs_up +1 thumbsup"),
   ("👎", "thumbs_down __1 -1 thumbsdown"), ("👏", "clapping_hands clap"), ("👐", "open_hands"),
   ("👦", "boy"), ("👧", "girl"), ("👨", "man"), ("👨\u200d⚕\ufe0f", "man_health_worker"),
   ("👨\u200d⚖\ufe0f", "man_judge"), ("👨\u200d✈\ufe0f", "man_pilot"), ("👨\u200d🌾", "man_farmer"),
   ("👨\u200d🍳", "man_cook"), ("👨\u200d🎓", "man_student"), ("👨\u200d🎤", "man_singer"),
   ("👨\u200d🎨", "man_artist"), ("👨\u200d🏫", "man_teacher"), ("👨\u200d🏭", "man_factory_worker"),
   ("👨\u200d💻", "man_technologist"), ("👨\u200d💼", "man_office_worker"),
   ("👨\u200d🔧", "man_mechanic"), ("👨\u200d🔬", "man_scientist"), ("👨\u200d🚀", "man_astronaut"),
   ("👨\u200d🚒", "man_firefighter"), ("👩", "woman"), ("👩\u200d⚕\ufe0f", "woman_health_worker"),
   ("👩\u200d⚖\ufe0f", "woman_judge"), ("👩\u200d✈\ufe0f", "woman_pilot"),
   ("👩\u200d🌾", "woman_farmer"), ("👩\u200d🍳", "woman_cook"), ("👩\u200d🎓", "woman_student"),
   ("👩\u200d🎤", "woman_singer"), ("👩\u200d🎨", "woman_artist"), ("👩\u200d🏫", "woman_teacher"),
   ("👩\u200d🏭", "woman_factory_worker"), ("👩\u200d💻", "woman_technologist"),
   ("👩\u200d💼", "woman_office_worker"), ("👩\u200d🔧", "woman_mechanic"),
   ("👩\u200d🔬", "woman_scientist"), ("👩\u200d🚀", "woman_astronaut"),
   ("👩\u200d🚒", "woman_firefighter"), ("👮", "police_officer cop"),
   ("👮\u200d♀\ufe0f", "woman_police_officer"), ("👮\u200d♂\ufe0f", "man_police_officer"),
   ("👰", "bride_with_veil"), ("👱", "blond-haired_person person_with_blond_hair"),
   ("👱\u200d♀\ufe0f", "blond-haired_woman"), ("👱\u200d♂\ufe0f", "blond-haired_man"),
   ("👲", "man_with_chinese_cap man_with_gua_pi_mao"),
   ("👳", "person_wearing_turban man_with_turban"), ("👳\u200d♀\ufe0f", "woman_wearing_turban"),
   ("👳\u200d♂\ufe0f", "man_wearing_turban"), ("👴", "old_man older_man"),
   ("👵", "old_woman older_woman"), ("👶", "baby"), ("👷", "construction_worker"),
   ("👷\u200d♀\ufe0f", "woman_construction_worker"),
   ("👷\u200d♂\ufe0f", "man_construction_worker"), ("👸", "princess"), ("👼", "baby_angel angel"),
   ("💁", "person_tipping_hand information_desk_person"),
   ("💁\u200d♀\ufe0f", "woman_tipping_hand"), ("💁\u200d♂\ufe0f", "man_tipping_hand"),
   ("💂", "guard guardsman"), ("💂\u200d♀\ufe0f", "woman_guard"), ("💂\u200d♂\ufe0f", "man_guard"),
   ("💃", "woman_dancing dancer"), ("💅", "nail_polish nail_care"),
   ("💆", "person_getting_massage massage"), ("💆\u200d♀\ufe0f", "woman_getting_massage"),
   ("💆\u200d♂\ufe0f", "man_getting_massage"), ("💇", "person_getting_haircut haircut"),
   ("💇\u200d♀\ufe0f", "woman_getting_haircut"), ("💇\u200d♂\ufe0f", "man_getting_haircut"),
   ("💪", "flexed_biceps muscle"),
   ("🕴", "man_in_suit_levitating man_in_business_suit_levitating"),
   ("🕵", "detective sleuth_or_spy"), ("🕵\ufe0f\u200d♀\ufe0f", "woman_detective"),
   ("🕵\ufe0f\u200d♂\ufe0f", "man_detective"), ("🕺", "man_dancing"),
   ("🖐", "hand_with_fingers_splayed raised_hand_with_fingers_splayed"),
   ("🖕", "middle_finger reversed_hand_with_middle_finger_extended"),
   ("🖖", "vulcan_salute raised_hand_with_part_between_middle_and_ring_fingers"),
   ("🙅", "person_gesturing_no no_good"), ("🙅\u200d♀\ufe0f", "woman_gesturing_no"),
   ("🙅\u200d♂\ufe0f", "man_gesturing_no"), ("🙆", "person_gesturing_ok ok_woman"),
   ("🙆\u200d♀\ufe0f", "woman_gesturing_ok"), ("🙆\u200d♂\ufe0f", "man_gesturing_ok"),
   ("🙇", "person_bowing bow"), ("🙇\u200d♀\ufe0f", "woman_bowing"),
   ("🙇\u200d♂\ufe0f", "man_bowing"), ("🙋", "person_raising_hand raising_hand"),
   ("🙋\u200d♀\ufe0f", "woman_raising_hand"), ("🙋\u200d♂\ufe0f", "man_raising_hand"),
   ("🙌", "raising_hands raised_hands"), ("🙍", "person_frowning"),
   ("🙍\u200d♀\ufe0f", "woman_frowning"), ("🙍\u200d♂\ufe0f", "man_frowning"),
   ("🙎", "person_pouting person_with_pouting_face"), ("🙎\u200d♀\ufe0f", "woman_pouting"),
   ("🙎\u200d♂\ufe0f", "man_pouting"), ("🙏", "folded_hands pray"),
   ("🚣", "person_rowing_boat rowboat"), ("🚣\u200d♀\ufe0f", "woman_rowing_boat"),
   ("🚣\u200d♂\ufe0f", "man_rowing_boat"), ("🚴", "person_biking bicyclist"),
   ("🚴\u200d♀\ufe0f", "woman_biking"), ("🚴\u200d♂\ufe0f", "man_biking"),
   ("🚵", "person_mountain_biking mountain_bicyclist"),
   ("🚵\u200d♀\ufe0f", "woman_mountain_biking"), ("🚵\u200d♂\ufe0f", "man_mountain_biking"),
   ("🚶", "person_walking walking"), ("🚶\u200d♀\ufe0f", "woman_walking"),
   ("🚶\u200d♂\ufe0f", "man_walking"), ("🛀", "person_taking_bath bath"),
   ("🛌", "person_in_bed sleeping_accommodation"), ("🤘", "sign_of_the_horns"),
   ("🤙", "call_me_hand"), ("🤚", "raised_back_of_hand"), ("🤛", "left-facing_fist"),
   ("🤜", "right-facing_fist"), ("🤞", "crossed_fingers"), ("🤟", "love-you_gesture"),
   ("🤦", "person_facepalming"), ("🤦\u200d♀\ufe0f", "woman_facepalming"),
   ("🤦\u200d♂\ufe0f", "man_facepalming"), ("🤰", "pregnant_woman"), ("🤱", "breast-feeding"),
   ("🤲", "palms_up_together"), ("🤳", "selfie"), ("🤴", "prince"), ("🤵", "man_in_tuxedo"),
   ("🤶", "mrs._claus"), ("🤷", "person_shrugging"), ("🤷\u200d♀\ufe0f", "woman_shrugging"),
   ("🤷\u200d♂\ufe0f", "man_shrugging"), ("🤸", "person_cartwheeling"),
   ("🤸\u200d♀\ufe0f", "woman_cartwheeling"), ("🤸\u200d♂\ufe0f", "man_cartwheeling"),
   ("🤹", "person_juggling"), ("🤹\u200d♀\ufe0f", "woman_juggling"),
   ("🤹\u200d♂\ufe0f", "man_juggling"), ("🤽", "person_playing_water_polo"),
   ("🤽\u200d♀\ufe0f", "woman_playing_water_polo"), ("🤽\u200d♂\ufe0f", "man_playing_water_polo"),
   ("🤾", "person_playing_handball"), ("🤾\u200d♀\ufe0f", "woman_playing_handball"),
   ("🤾\u200d♂\ufe0f", "man_playing_handball"), ("🧑", "adult"), ("🧒", "child"),
   ("🧓", "older_adult"), ("🧔", "bearded_person"), ("🧕", "woman_with_headscarf"),
   ("🧖", "person_in_steamy_room"), ("🧖\u200d♀\ufe0f", "woman_in_steamy_room"),
   ("🧖\u200d♂\ufe0f", "man_in_steamy_room"), ("🧗", "person_climbing"),
   ("🧗\u200d♀\ufe0f", "woman_climbing"), ("🧗\u200d♂\ufe0f", "man_climbing"),
   ("🧘", "person_in_lotus_position"), ("🧘\u200d♀\ufe0f", "woman_in_lotus_position"),
   ("🧘\u200d♂\ufe0f", "man_in_lotus_position"), ("🧙", "mage"), ("🧙\u200d♀\ufe0f", "woman_mage"),
   ("🧙\u200d♂\ufe0f", "man_mage"), ("🧚", "fairy"), ("🧚\u200d♀\ufe0f", "woman_fairy"),
   ("🧚\u200d♂\ufe0f", "man_fairy"), ("🧛", "vampire"), ("🧛\u200d♀\ufe0f", "woman_vampire"),
   ("🧛\u200d♂\ufe0f", "man_vampire"), ("🧜", "merperson"), ("🧜\u200d♀\ufe0f", "mermaid"),
   ("🧜\u200d♂\ufe0f", "merman"), ("🧝", "elf"), ("🧝\u200d♀\ufe0f", "woman_elf"),
   ("🧝\u200d♂\ufe0f", "man_elf")
  ]

end PrefixDelegation.Console.Emoji
