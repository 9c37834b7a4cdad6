/-!
# Emoji from U+1F400 to U+1F4FF

The table pairs each emoji with its names, which are separated by blanks: animals, parts of the
body, clothes, money, and the things of an office.
-/

namespace PrefixDelegation.Console.Emoji

/-- The emoji of this module, with their names. -/
def animals : List (String × String) :=
  [
   ("🐀", "rat"), ("🐁", "mouse2"), ("🐂", "ox"), ("🐃", "water_buffalo"), ("🐄", "cow2"),
   ("🐅", "tiger2"), ("🐆", "leopard"), ("🐇", "rabbit2"), ("🐈", "cat2"), ("🐉", "dragon"),
   ("🐊", "crocodile"), ("🐋", "whale2"), ("🐌", "snail"), ("🐍", "snake"), ("🐎", "racehorse"),
   ("🐏", "ram"), ("🐐", "goat"), ("🐑", "ewe sheep"), ("🐒", "monkey"), ("🐓", "rooster"),
   ("🐔", "chicken"), ("🐕", "dog2"), ("🐖", "pig2"), ("🐗", "boar"), ("🐘", "elephant"),
   ("🐙", "octopus"), ("🐚", "spiral_shell shell"), ("🐛", "bug"), ("🐜", "ant"),
   ("🐝", "honeybee bee"), ("🐞", "lady_beetle beetle"), ("🐟", "fish"), ("🐠", "tropical_fish"),
   ("🐡", "blowfish"), ("🐢", "turtle"), ("🐣", "hatching_chick"), ("🐤", "baby_chick"),
   ("🐥", "front-facing_baby_chick hatched_chick"), ("🐦", "bird"), ("🐧", "penguin"),
   ("🐨", "koala"), ("🐩", "poodle"), ("🐪", "dromedary_camel"), ("🐫", "camel two-hump_camel"),
   ("🐬", "dolphin flipper"), ("🐭", "mouse mouse_face"), ("🐮", "cow cow_face"),
   ("🐯", "tiger tiger_face"), ("🐰", "rabbit rabbit_face"), ("🐱", "cat cat_face"),
   ("🐲", "dragon_face"), ("🐳", "spouting_whale whale"), ("🐴", "horse horse_face"),
   ("🐵", "monkey_face"), ("🐶", "dog dog_face"), ("🐷", "pig pig_face"), ("🐸", "frog_face frog"),
   ("🐹", "hamster_face hamster"), ("🐺", "wolf_face wolf"), ("🐻", "bear_face bear"),
   ("🐼", "panda_face"), ("🐽", "pig_nose"), ("🐾", "paw_prints feet"), ("🐿", "chipmunk"),
   ("👀", "eyes"), ("👁", "eye"), ("👄", "mouth lips"), ("👅", "tongue"), ("👑", "crown"),
   ("👒", "woman’s_hat womans_hat"), ("👓", "glasses eyeglasses"), ("👔", "necktie"),
   ("👕", "t-shirt shirt tshirt"), ("👖", "jeans"), ("👗", "dress"), ("👘", "kimono"),
   ("👙", "bikini"), ("👚", "woman’s_clothes womans_clothes"), ("👛", "purse"), ("👜", "handbag"),
   ("👝", "clutch_bag pouch"), ("👞", "man’s_shoe mans_shoe shoe"),
   ("👟", "running_shoe athletic_shoe"), ("👠", "high-heeled_shoe high_heel"),
   ("👡", "woman’s_sandal sandal"), ("👢", "woman’s_boot boot"), ("👣", "footprints"),
   ("👤", "bust_in_silhouette"), ("👥", "busts_in_silhouette"), ("👪", "family"),
   ("👫", "man_and_woman_holding_hands couple"), ("👬", "two_men_holding_hands"),
   ("👭", "two_women_holding_hands"), ("👯", "people_with_bunny_ears dancers"),
   ("👹", "ogre japanese_ogre"), ("👺", "goblin japanese_goblin"), ("👻", "ghost"), ("👽", "alien"),
   ("👾", "alien_monster space_invader"), ("👿", "angry_face_with_horns imp"), ("💀", "skull"),
   ("💄", "lipstick"), ("💈", "barber_pole barber"), ("💉", "syringe"), ("💊", "pill"),
   ("💋", "kiss kiss_mark"), ("💌", "love_letter"), ("💍", "ring"), ("💎", "gem_stone gem"),
   ("💏", "couplekiss"), ("💐", "bouquet"), ("💑", "couple_with_heart"), ("💒", "wedding"),
   ("💓", "beating_heart heartbeat"), ("💔", "broken_heart"), ("💕", "two_hearts"),
   ("💖", "sparkling_heart"), ("💗", "growing_heart heartpulse"), ("💘", "heart_with_arrow cupid"),
   ("💙", "blue_heart"), ("💚", "green_heart"), ("💛", "yellow_heart"), ("💜", "purple_heart"),
   ("💝", "heart_with_ribbon gift_heart"), ("💞", "revolving_hearts"), ("💟", "heart_decoration"),
   ("💠", "diamond_with_a_dot diamond_shape_with_a_dot_inside"), ("💡", "light_bulb bulb"),
   ("💢", "anger_symbol anger"), ("💣", "bomb"), ("💤", "zzz"), ("💥", "collision boom"),
   ("💦", "sweat_droplets sweat_drops"), ("💧", "droplet"), ("💨", "dashing_away dash"),
   ("💩", "pile_of_poo hankey poop shit"), ("💫", "dizzy"), ("💬", "speech_balloon"),
   ("💭", "thought_balloon"), ("💮", "white_flower"), ("💯", "hundred_points 100"),
   ("💰", "money_bag moneybag"), ("💱", "currency_exchange"), ("💲", "heavy_dollar_sign"),
   ("💳", "credit_card"), ("💴", "yen_banknote yen"), ("💵", "dollar_banknote dollar"),
   ("💶", "euro_banknote euro"), ("💷", "pound_banknote pound"), ("💸", "money_with_wings"),
   ("💹", "chart_increasing_with_yen chart"), ("💺", "seat"), ("💻", "laptop_computer computer"),
   ("💼", "briefcase"), ("💽", "computer_disk minidisc"), ("💾", "floppy_disk"),
   ("💿", "optical_disk cd"), ("📀", "dvd"), ("📁", "file_folder"), ("📂", "open_file_folder"),
   ("📃", "page_with_curl"), ("📄", "page_facing_up"), ("📅", "date"),
   ("📆", "calendar tear-off_calendar"), ("📇", "card_index"),
   ("📈", "chart_increasing chart_with_upwards_trend"),
   ("📉", "chart_decreasing chart_with_downwards_trend"), ("📊", "bar_chart"), ("📋", "clipboard"),
   ("📌", "pushpin"), ("📍", "round_pushpin"), ("📎", "paperclip"), ("📏", "straight_ruler"),
   ("📐", "triangular_ruler"), ("📑", "bookmark_tabs"), ("📒", "ledger"), ("📓", "notebook"),
   ("📔", "notebook_with_decorative_cover"), ("📕", "closed_book"), ("📖", "open_book book"),
   ("📗", "green_book"), ("📘", "blue_book"), ("📙", "orange_book"), ("📚", "books"),
   ("📛", "name_badge"), ("📜", "scroll"), ("📝", "memo pencil"), ("📞", "telephone_receiver"),
   ("📟", "pager"), ("📠", "fax_machine fax"), ("📡", "satellite satellite_antenna"),
   ("📢", "loudspeaker"), ("📣", "megaphone mega"), ("📤", "outbox_tray"), ("📥", "inbox_tray"),
   ("📦", "package"), ("📧", "e-mail e__mail"), ("📨", "incoming_envelope"),
   ("📩", "envelope_with_arrow"), ("📪", "closed_mailbox_with_lowered_flag mailbox_closed"),
   ("📫", "closed_mailbox_with_raised_flag mailbox"),
   ("📬", "open_mailbox_with_raised_flag mailbox_with_mail"),
   ("📭", "open_mailbox_with_lowered_flag mailbox_with_no_mail"), ("📮", "postbox"),
   ("📯", "postal_horn"), ("📰", "newspaper"), ("📱", "mobile_phone iphone"),
   ("📲", "mobile_phone_with_arrow calling"), ("📳", "vibration_mode"), ("📴", "mobile_phone_off"),
   ("📵", "no_mobile_phones"), ("📶", "antenna_bars signal_strength"), ("📷", "camera"),
   ("📸", "camera_with_flash"), ("📹", "video_camera"), ("📺", "television tv"), ("📻", "radio"),
   ("📼", "videocassette vhs"), ("📽", "film_projector"), ("📿", "prayer_beads")
  ]

end PrefixDelegation.Console.Emoji
