/-!
# Emoji from U+1F500 to U+1F64F

The table pairs each emoji with its names, which are separated by blanks: signs, clocks, tools and
faces.
-/

namespace PrefixDelegation.Console.Emoji

/-- The emoji of this module, with their names. -/
def faces : List (String × String) :=
  [
   ("🔀", "shuffle_tracks_button twisted_rightwards_arrows"), ("🔁", "repeat_button repeat"),
   ("🔂", "repeat_single_button repeat_one"),
   ("🔃", "clockwise_vertical_arrows arrows_clockwise"),
   ("🔄", "counterclockwise_arrows_button arrows_counterclockwise"),
   ("🔅", "dim_button low_brightness"), ("🔆", "bright_button high_brightness"),
   ("🔇", "muted_speaker mute"), ("🔈", "speaker_low_volume speaker"),
   ("🔉", "speaker_medium_volume sound"), ("🔊", "speaker_high_volume loud_sound"),
   ("🔋", "battery"), ("🔌", "electric_plug"), ("🔍", "magnifying_glass_tilted_left mag"),
   ("🔎", "magnifying_glass_tilted_right mag_right"), ("🔏", "locked_with_pen lock_with_ink_pen"),
   ("🔐", "locked_with_key closed_lock_with_key"), ("🔑", "key"), ("🔒", "locked lock"),
   ("🔓", "unlocked unlock"), ("🔔", "bell"), ("🔕", "bell_with_slash no_bell"), ("🔖", "bookmark"),
   ("🔗", "link"), ("🔘", "radio_button"), ("🔙", "back_arrow back"), ("🔚", "end_arrow end"),
   ("🔛", "on!_arrow on"), ("🔜", "soon_arrow soon"), ("🔝", "top_arrow top"),
   ("🔞", "no_one_under_eighteen underage"), ("🔟", "keycap_10 ten"),
   ("🔠", "input_latin_uppercase capital_abcd"), ("🔡", "input_latin_lowercase abcd"),
   ("🔢", "input_numbers 1234"), ("🔣", "input_symbols symbols"),
   ("🔤", "input_latin_letters abc"), ("🔥", "fire"), ("🔦", "flashlight"), ("🔧", "wrench"),
   ("🔨", "hammer"), ("🔩", "nut_and_bolt"), ("🔪", "kitchen_knife hocho knife"),
   ("🔫", "pistol gun"), ("🔬", "microscope"), ("🔭", "telescope"), ("🔮", "crystal_ball"),
   ("🔯", "dotted_six-pointed_star six_pointed_star"),
   ("🔰", "japanese_symbol_for_beginner beginner"), ("🔱", "trident_emblem trident"),
   ("🔲", "black_square_button"), ("🔳", "white_square_button"), ("🔴", "red_circle"),
   ("🔵", "blue_circle large_blue_circle"), ("🔶", "large_orange_diamond"),
   ("🔷", "large_blue_diamond"), ("🔸", "small_orange_diamond"), ("🔹", "small_blue_diamond"),
   ("🔺", "red_triangle_pointed_up small_red_triangle"),
   ("🔻", "red_triangle_pointed_down small_red_triangle_down"),
   ("🔼", "upwards_button arrow_up_small"), ("🔽", "downwards_button arrow_down_small"),
   ("🕉", "om om_symbol"), ("🕊", "dove dove_of_peace"), ("🕋", "kaaba"), ("🕌", "mosque"),
   ("🕍", "synagogue"), ("🕎", "menorah menorah_with_nine_branches"), ("🕐", "one_o’clock clock1"),
   ("🕑", "two_o’clock clock2"), ("🕒", "three_o’clock clock3"), ("🕓", "four_o’clock clock4"),
   ("🕔", "five_o’clock clock5"), ("🕕", "six_o’clock clock6"), ("🕖", "seven_o’clock clock7"),
   ("🕗", "eight_o’clock clock8"), ("🕘", "nine_o’clock clock9"), ("🕙", "ten_o’clock clock10"),
   ("🕚", "eleven_o’clock clock11"), ("🕛", "twelve_o’clock clock12"),
   ("🕜", "one-thirty clock130"), ("🕝", "two-thirty clock230"), ("🕞", "three-thirty clock330"),
   ("🕟", "four-thirty clock430"), ("🕠", "five-thirty clock530"), ("🕡", "six-thirty clock630"),
   ("🕢", "seven-thirty clock730"), ("🕣", "eight-thirty clock830"),
   ("🕤", "nine-thirty clock930"), ("🕥", "ten-thirty clock1030"),
   ("🕦", "eleven-thirty clock1130"), ("🕧", "twelve-thirty clock1230"), ("🕯", "candle"),
   ("🕰", "mantelpiece_clock"), ("🕳", "hole"), ("🕶", "dark_sunglasses"), ("🕷", "spider"),
   ("🕸", "spider_web"), ("🕹", "joystick"), ("🖇", "linked_paperclips"),
   ("🖊", "pen lower_left_ballpoint_pen"), ("🖋", "fountain_pen lower_left_fountain_pen"),
   ("🖌", "paintbrush lower_left_paintbrush"), ("🖍", "crayon lower_left_crayon"),
   ("🖤", "black_heart"), ("🖥", "desktop_computer"), ("🖨", "printer"),
   ("🖱", "computer_mouse three_button_mouse"), ("🖲", "trackball"),
   ("🖼", "framed_picture frame_with_picture"), ("🗂", "card_index_dividers"),
   ("🗃", "card_file_box"), ("🗄", "file_cabinet"), ("🗑", "wastebasket"),
   ("🗒", "spiral_notepad spiral_note_pad"), ("🗓", "spiral_calendar spiral_calendar_pad"),
   ("🗜", "clamp compression"), ("🗝", "old_key"),
   ("🗞", "rolled-up_newspaper rolled__up_newspaper"), ("🗡", "dagger dagger_knife"),
   ("🗣", "speaking_head speaking_head_in_silhouette"), ("🗨", "left_speech_bubble"),
   ("🗯", "right_anger_bubble"), ("🗳", "ballot_box_with_ballot"), ("🗺", "world_map"),
   ("🗻", "mount_fuji"), ("🗼", "tokyo_tower"), ("🗽", "statue_of_liberty"),
   ("🗾", "japan map_of_japan"), ("🗿", "moai moyai"), ("😀", "grinning_face grinning"),
   ("😁", "beaming_face_with_smiling_eyes grin"), ("😂", "face_with_tears_of_joy joy"),
   ("😃", "grinning_face_with_big_eyes smiley"), ("😄", "grinning_face_with_smiling_eyes smile"),
   ("😅", "grinning_face_with_sweat sweat_smile"),
   ("😆", "grinning_squinting_face laughing satisfied"),
   ("😇", "smiling_face_with_halo innocent"), ("😈", "smiling_face_with_horns smiling_imp"),
   ("😉", "winking_face wink"), ("😊", "smiling_face_with_smiling_eyes blush"),
   ("😋", "face_savoring_food yum"), ("😌", "relieved_face relieved"),
   ("😍", "smiling_face_with_heart-eyes heart_eyes"),
   ("😎", "smiling_face_with_sunglasses sunglasses"), ("😏", "smirking_face smirk"),
   ("😐", "neutral_face"), ("😑", "expressionless_face expressionless"),
   ("😒", "unamused_face unamused"), ("😓", "downcast_face_with_sweat sweat"),
   ("😔", "pensive_face pensive"), ("😕", "confused_face confused"),
   ("😖", "confounded_face confounded"), ("😗", "kissing_face kissing"),
   ("😘", "face_blowing_a_kiss kissing_heart"),
   ("😙", "kissing_face_with_smiling_eyes kissing_smiling_eyes"),
   ("😚", "kissing_face_with_closed_eyes kissing_closed_eyes"),
   ("😛", "face_with_tongue stuck_out_tongue"),
   ("😜", "winking_face_with_tongue stuck_out_tongue_winking_eye"),
   ("😝", "squinting_face_with_tongue stuck_out_tongue_closed_eyes"),
   ("😞", "disappointed_face disappointed"), ("😟", "worried_face worried"),
   ("😠", "angry_face angry"), ("😡", "pouting_face rage"), ("😢", "crying_face cry"),
   ("😣", "persevering_face persevere"), ("😤", "face_with_steam_from_nose triumph"),
   ("😥", "sad_but_relieved_face disappointed_relieved"),
   ("😦", "frowning_face_with_open_mouth frowning"), ("😧", "anguished_face anguished"),
   ("😨", "fearful_face fearful"), ("😩", "weary_face weary"), ("😪", "sleepy_face sleepy"),
   ("😫", "tired_face"), ("😬", "grimacing_face grimacing"), ("😭", "loudly_crying_face sob"),
   ("😮", "face_with_open_mouth open_mouth"), ("😯", "hushed_face hushed"),
   ("😰", "anxious_face_with_sweat cold_sweat"), ("😱", "face_screaming_in_fear scream"),
   ("😲", "astonished_face astonished"), ("😳", "flushed_face flushed"),
   ("😴", "sleeping_face sleeping"), ("😵", "dizzy_face"), ("😶", "face_without_mouth no_mouth"),
   ("😷", "face_with_medical_mask mask"), ("😸", "grinning_cat_face_with_smiling_eyes smile_cat"),
   ("😹", "cat_face_with_tears_of_joy joy_cat"), ("😺", "grinning_cat_face smiley_cat"),
   ("😻", "smiling_cat_face_with_heart-eyes heart_eyes_cat"),
   ("😼", "cat_face_with_wry_smile smirk_cat"), ("😽", "kissing_cat_face kissing_cat"),
   ("😾", "pouting_cat_face pouting_cat"), ("😿", "crying_cat_face"),
   ("🙀", "weary_cat_face scream_cat"), ("🙁", "slightly_frowning_face"),
   ("🙂", "slightly_smiling_face"), ("🙃", "upside-down_face upside__down_face"),
   ("🙄", "face_with_rolling_eyes"), ("🙈", "see-no-evil_monkey see_no_evil"),
   ("🙉", "hear-no-evil_monkey hear_no_evil"), ("🙊", "speak-no-evil_monkey speak_no_evil")
  ]

end PrefixDelegation.Console.Emoji
