/-!
# Emoji from U+1F300 to U+1F3FF

The table pairs each emoji with its names, which are separated by blanks: weather and sky, plants,
food, occasions, sports and buildings.
-/

namespace PrefixDelegation.Console.Emoji

/-- The emoji of this module, with their names. -/
def places : List (String × String) :=
  [
   ("🌀", "cyclone"), ("🌁", "foggy"), ("🌂", "closed_umbrella"), ("🌃", "night_with_stars"),
   ("🌄", "sunrise_over_mountains"), ("🌅", "sunrise"), ("🌆", "cityscape_at_dusk city_sunset"),
   ("🌇", "sunset city_sunrise"), ("🌈", "rainbow"), ("🌉", "bridge_at_night"),
   ("🌊", "water_wave ocean"), ("🌋", "volcano"), ("🌌", "milky_way"),
   ("🌍", "globe_showing_europe-africa earth_africa"),
   ("🌎", "globe_showing_americas earth_americas"),
   ("🌏", "globe_showing_asia-australia earth_asia"), ("🌐", "globe_with_meridians"),
   ("🌑", "new_moon"), ("🌒", "waxing_crescent_moon"), ("🌓", "first_quarter_moon"),
   ("🌔", "waxing_gibbous_moon moon"), ("🌕", "full_moon"), ("🌖", "waning_gibbous_moon"),
   ("🌗", "last_quarter_moon"), ("🌘", "waning_crescent_moon"), ("🌙", "crescent_moon"),
   ("🌚", "new_moon_face new_moon_with_face"),
   ("🌛", "first_quarter_moon_face first_quarter_moon_with_face"),
   ("🌜", "last_quarter_moon_face last_quarter_moon_with_face"),
   ("🌝", "full_moon_face full_moon_with_face"), ("🌞", "sun_with_face"),
   ("🌟", "glowing_star star2"), ("🌠", "shooting_star stars"), ("🌡", "thermometer"),
   ("🌤", "sun_behind_small_cloud white_sun_with_small_cloud"),
   ("🌥", "sun_behind_large_cloud white_sun_behind_cloud"),
   ("🌦", "sun_behind_rain_cloud white_sun_behind_cloud_with_rain"), ("🌧", "cloud_with_rain"),
   ("🌨", "cloud_with_snow"), ("🌩", "cloud_with_lightning"), ("🌪", "tornado cloud_with_tornado"),
   ("🌫", "fog"), ("🌬", "wind_face wind_blowing_face"), ("🌭", "hot_dog"), ("🌮", "taco"),
   ("🌯", "burrito"), ("🌰", "chestnut"), ("🌱", "seedling"), ("🌲", "evergreen_tree"),
   ("🌳", "deciduous_tree"), ("🌴", "palm_tree"), ("🌵", "cactus"), ("🌶", "hot_pepper"),
   ("🌷", "tulip"), ("🌸", "cherry_blossom"), ("🌹", "rose"), ("🌺", "hibiscus"),
   ("🌻", "sunflower"), ("🌼", "blossom"), ("🌽", "ear_of_corn corn"),
   ("🌾", "sheaf_of_rice ear_of_rice"), ("🌿", "herb"), ("🍀", "four_leaf_clover"),
   ("🍁", "maple_leaf"), ("🍂", "fallen_leaf"), ("🍃", "leaf_fluttering_in_wind leaves"),
   ("🍄", "mushroom"), ("🍅", "tomato"), ("🍆", "eggplant"), ("🍇", "grapes"), ("🍈", "melon"),
   ("🍉", "watermelon"), ("🍊", "tangerine"), ("🍋", "lemon"), ("🍌", "banana"), ("🍍", "pineapple"),
   ("🍎", "red_apple apple"), ("🍏", "green_apple"), ("🍐", "pear"), ("🍑", "peach"),
   ("🍒", "cherries"), ("🍓", "strawberry"), ("🍔", "hamburger"), ("🍕", "pizza"),
   ("🍖", "meat_on_bone"), ("🍗", "poultry_leg"), ("🍘", "rice_cracker"), ("🍙", "rice_ball"),
   ("🍚", "cooked_rice rice"), ("🍛", "curry_rice curry"), ("🍜", "steaming_bowl ramen"),
   ("🍝", "spaghetti"), ("🍞", "bread"), ("🍟", "french_fries fries"),
   ("🍠", "roasted_sweet_potato sweet_potato"), ("🍡", "dango"), ("🍢", "oden"), ("🍣", "sushi"),
   ("🍤", "fried_shrimp"), ("🍥", "fish_cake_with_swirl fish_cake"),
   ("🍦", "soft_ice_cream icecream"), ("🍧", "shaved_ice"), ("🍨", "ice_cream"), ("🍩", "doughnut"),
   ("🍪", "cookie"), ("🍫", "chocolate_bar"), ("🍬", "candy"), ("🍭", "lollipop"), ("🍮", "custard"),
   ("🍯", "honey_pot"), ("🍰", "shortcake cake"), ("🍱", "bento_box bento"),
   ("🍲", "pot_of_food stew"), ("🍳", "cooking egg"), ("🍴", "fork_and_knife"),
   ("🍵", "teacup_without_handle tea"), ("🍶", "sake"), ("🍷", "wine_glass"),
   ("🍸", "cocktail_glass cocktail"), ("🍹", "tropical_drink"), ("🍺", "beer_mug beer"),
   ("🍻", "clinking_beer_mugs beers"), ("🍼", "baby_bottle"), ("🍽", "fork_and_knife_with_plate"),
   ("🍾", "bottle_with_popping_cork"), ("🍿", "popcorn"), ("🎀", "ribbon"),
   ("🎁", "wrapped_gift gift"), ("🎂", "birthday_cake birthday"),
   ("🎃", "jack-o-lantern jack_o_lantern"), ("🎄", "christmas_tree"), ("🎆", "fireworks"),
   ("🎇", "sparkler"), ("🎈", "balloon"), ("🎉", "party_popper tada"), ("🎊", "confetti_ball"),
   ("🎋", "tanabata_tree"), ("🎌", "crossed_flags"), ("🎍", "pine_decoration bamboo"),
   ("🎎", "japanese_dolls dolls"), ("🎏", "carp_streamer flags"), ("🎐", "wind_chime"),
   ("🎑", "moon_viewing_ceremony rice_scene"), ("🎒", "school_backpack school_satchel"),
   ("🎓", "graduation_cap mortar_board"), ("🎖", "military_medal"), ("🎗", "reminder_ribbon"),
   ("🎙", "studio_microphone"), ("🎚", "level_slider"), ("🎛", "control_knobs"),
   ("🎞", "film_frames"), ("🎟", "admission_tickets"), ("🎠", "carousel_horse"),
   ("🎡", "ferris_wheel"), ("🎢", "roller_coaster"), ("🎣", "fishing_pole fishing_pole_and_fish"),
   ("🎤", "microphone"), ("🎥", "movie_camera"), ("🎦", "cinema"), ("🎧", "headphone headphones"),
   ("🎨", "artist_palette art"), ("🎩", "top_hat tophat"), ("🎪", "circus_tent"), ("🎫", "ticket"),
   ("🎬", "clapper_board clapper"), ("🎭", "performing_arts"), ("🎮", "video_game"),
   ("🎯", "direct_hit dart"), ("🎰", "slot_machine"), ("🎱", "pool_8_ball 8ball"),
   ("🎲", "game_die"), ("🎳", "bowling"), ("🎴", "flower_playing_cards"), ("🎵", "musical_note"),
   ("🎶", "musical_notes notes"), ("🎷", "saxophone"), ("🎸", "guitar"), ("🎹", "musical_keyboard"),
   ("🎺", "trumpet"), ("🎻", "violin"), ("🎼", "musical_score"),
   ("🎽", "running_shirt running_shirt_with_sash"), ("🎾", "tennis"), ("🎿", "skis ski"),
   ("🏀", "basketball"), ("🏁", "chequered_flag checkered_flag"), ("🏅", "sports_medal"),
   ("🏆", "trophy"), ("🏈", "american_football football"), ("🏉", "rugby_football"),
   ("🏍", "motorcycle racing_motorcycle"), ("🏎", "racing_car"),
   ("🏏", "cricket_game cricket_bat_and_ball"), ("🏐", "volleyball"),
   ("🏑", "field_hockey field_hockey_stick_and_ball"),
   ("🏒", "ice_hockey ice_hockey_stick_and_puck"),
   ("🏓", "ping_pong table_tennis_paddle_and_ball"),
   ("🏔", "snow-capped_mountain snow_capped_mountain"), ("🏕", "camping"),
   ("🏖", "beach_with_umbrella"), ("🏗", "building_construction"),
   ("🏘", "houses house_buildings"), ("🏙", "cityscape"),
   ("🏚", "derelict_house derelict_house_building"), ("🏛", "classical_building"),
   ("🏜", "desert"), ("🏝", "desert_island"), ("🏞", "national_park"), ("🏟", "stadium"),
   ("🏠", "house"), ("🏡", "house_with_garden"), ("🏢", "office_building office"),
   ("🏣", "japanese_post_office post_office"), ("🏤", "european_post_office"), ("🏥", "hospital"),
   ("🏦", "bank"), ("🏧", "atm_sign atm"), ("🏨", "hotel"), ("🏩", "love_hotel"),
   ("🏪", "convenience_store"), ("🏫", "school"), ("🏬", "department_store"), ("🏭", "factory"),
   ("🏮", "red_paper_lantern izakaya_lantern lantern"), ("🏯", "japanese_castle"),
   ("🏰", "castle european_castle"), ("🏳", "white_flag waving_white_flag"),
   ("🏴", "black_flag waving_black_flag"), ("🏵", "rosette"), ("🏷", "label"),
   ("🏸", "badminton badminton_racquet_and_shuttlecock"), ("🏹", "bow_and_arrow"),
   ("🏺", "amphora"), ("🏻", "light_skin_tone emoji_modifier_fitzpatrick_type__1__2"),
   ("🏼", "medium_light_skin_tone emoji_modifier_fitzpatrick_type__3"),
   ("🏽", "medium_skin_tone emoji_modifier_fitzpatrick_type__4"),
   ("🏾", "medium_dark_skin_tone emoji_modifier_fitzpatrick_type__5"),
   ("🏿", "dark_skin_tone emoji_modifier_fitzpatrick_type__6")
  ]

end PrefixDelegation.Console.Emoji
