import LineJoin.Text.Blank

/-!
# Emoji by name

Messages show an emoji where its name stands between colons, as in `:smile:`. The name may end in
`-text` or `-emoji`, which asks for that presentation. Names that are not in the table stay as they
are.
-/

namespace LineJoin.Emoji

def table : List (String × String) :=
  [("smile", "😄"), ("smiley", "😃"), ("grinning", "😀"), ("grin", "😁"), ("laughing", "😆"),
    ("joy", "😂"), ("sweat_smile", "😅"), ("blush", "😊"), ("wink", "😉"), ("heart_eyes", "😍"),
    ("kissing", "😗"), ("stuck_out_tongue", "😛"), ("thinking", "🤔"), ("neutral_face", "😐"),
    ("smirk", "😏"), ("sunglasses", "😎"), ("disappointed", "😞"), ("cry", "😢"), ("sob", "😭"),
    ("angry", "😠"), ("rage", "😡"), ("scream", "😱"), ("sleeping", "😴"), ("mask", "😷"),
    ("imp", "👿"), ("skull", "💀"), ("ghost", "👻"), ("alien", "👽"), ("robot", "🤖"),
    ("poop", "💩"), ("pile_of_poo", "💩"), ("vampire", "🧛"), ("heart", "❤"), ("red_heart", "❤"),
    ("broken_heart", "💔"), ("sparkling_heart", "💖"), ("blue_heart", "💙"),
    ("green_heart", "💚"), ("yellow_heart", "💛"), ("purple_heart", "💜"), ("star", "⭐"),
    ("star2", "🌟"), ("sparkles", "✨"), ("zap", "⚡"), ("fire", "🔥"), ("boom", "💥"),
    ("collision", "💥"), ("dizzy", "💫"), ("sweat_drops", "💦"), ("dash", "💨"), ("zzz", "💤"),
    ("+1", "👍"), ("thumbs_up", "👍"), ("thumbsup", "👍"), ("-1", "👎"), ("thumbs_down", "👎"),
    ("thumbsdown", "👎"), ("ok_hand", "👌"), ("clap", "👏"), ("wave", "👋"), ("pray", "🙏"),
    ("muscle", "💪"), ("point_up", "☝"), ("point_down", "👇"), ("point_left", "👈"),
    ("point_right", "👉"), ("raised_hands", "🙌"), ("eyes", "👀"), ("brain", "🧠"),
    ("cat", "🐱"), ("dog", "🐶"), ("mouse", "🐭"), ("rabbit", "🐰"), ("bear", "🐻"),
    ("panda_face", "🐼"), ("pig", "🐷"), ("frog", "🐸"), ("monkey_face", "🐵"), ("horse", "🐴"),
    ("snake", "🐍"), ("turtle", "🐢"), ("bug", "🐛"), ("bee", "🐝"), ("fish", "🐟"),
    ("whale", "🐳"), ("octopus", "🐙"), ("bird", "🐦"), ("penguin", "🐧"), ("chicken", "🐔"),
    ("dragon", "🐉"), ("rose", "🌹"), ("tulip", "🌷"), ("sunflower", "🌻"), ("cactus", "🌵"),
    ("four_leaf_clover", "🍀"), ("apple", "🍎"), ("banana", "🍌"), ("cherries", "🍒"),
    ("grapes", "🍇"), ("lemon", "🍋"), ("watermelon", "🍉"), ("strawberry", "🍓"),
    ("peach", "🍑"), ("pizza", "🍕"), ("hamburger", "🍔"), ("sushi", "🍣"), ("ramen", "🍜"),
    ("cake", "🍰"), ("birthday", "🎂"), ("cookie", "🍪"), ("coffee", "☕"), ("tea", "🍵"),
    ("beer", "🍺"), ("beers", "🍻"), ("wine_glass", "🍷"), ("rocket", "🚀"), ("airplane", "✈"),
    ("car", "🚗"), ("bus", "🚌"), ("bike", "🚲"), ("ship", "🚢"), ("train", "🚋"),
    ("house", "🏠"), ("school", "🏫"), ("hospital", "🏥"), ("bank", "🏦"), ("hotel", "🏨"),
    ("sun", "☀"), ("sunny", "☀"), ("cloud", "☁"), ("umbrella", "☔"), ("snowflake", "❄"),
    ("snowman", "⛄"), ("rainbow", "🌈"), ("ocean", "🌊"), ("moon", "🌔"), ("earth_asia", "🌏"),
    ("earth_africa", "🌍"), ("earth_americas", "🌎"), ("tada", "🎉"), ("party_popper", "🎉"),
    ("balloon", "🎈"), ("gift", "🎁"), ("christmas_tree", "🎄"), ("trophy", "🏆"),
    ("medal", "🏅"), ("soccer", "⚽"), ("basketball", "🏀"), ("baseball", "⚾"),
    ("tennis", "🎾"), ("video_game", "🎮"), ("dart", "🎯"), ("guitar", "🎸"),
    ("musical_note", "🎵"), ("notes", "🎶"), ("headphones", "🎧"), ("art", "🎨"),
    ("camera", "📷"), ("computer", "💻"), ("desktop_computer", "🖥"), ("keyboard", "⌨"),
    ("phone", "☎"), ("iphone", "📱"), ("tv", "📺"), ("bulb", "💡"), ("battery", "🔋"),
    ("flashlight", "🔦"), ("book", "📖"), ("books", "📚"), ("notebook", "📓"), ("memo", "📝"),
    ("pencil", "📝"), ("pencil2", "✏"), ("scissors", "✂"), ("paperclip", "📎"),
    ("pushpin", "📌"), ("calendar", "📆"), ("date", "📅"), ("clipboard", "📋"),
    ("file_folder", "📁"), ("open_file_folder", "📂"), ("package", "📦"), ("mailbox", "📫"),
    ("email", "✉"), ("envelope", "✉"), ("inbox_tray", "📥"), ("outbox_tray", "📤"),
    ("lock", "🔒"), ("unlock", "🔓"), ("key", "🔑"), ("mag", "🔍"), ("wrench", "🔧"),
    ("hammer", "🔨"), ("gear", "⚙"), ("link", "🔗"), ("bell", "🔔"), ("hourglass", "⌛"),
    ("watch", "⌚"), ("alarm_clock", "⏰"), ("moneybag", "💰"), ("gem", "💎"), ("bomb", "💣"),
    ("pill", "💊"), ("syringe", "💉"), ("warning", "⚠"), ("construction", "🚧"),
    ("no_entry", "⛔"), ("no_entry_sign", "🚫"), ("stop_sign", "🛑"), ("white_check_mark", "✅"),
    ("heavy_check_mark", "✔"), ("check_mark", "✔"), ("x", "❌"), ("cross_mark", "❌"),
    ("question", "❓"), ("exclamation", "❗"), ("heavy_exclamation_mark", "❗"),
    ("information_source", "ℹ"), ("information", "ℹ"), ("100", "💯"), ("ok", "🆗"),
    ("new", "🆕"), ("free", "🆓"), ("cool", "🆒"), ("up", "🆙"), ("sos", "🆘"), ("recycle", "♻"),
    ("infinity", "♾"), ("arrow_up", "⬆"), ("arrow_down", "⬇"), ("arrow_left", "⬅"),
    ("arrow_right", "➡"), ("speech_balloon", "💬"), ("crown", "👑"), ("baby", "👶"),
    ("boy", "👦"), ("girl", "👧"), ("man", "👨"), ("woman", "👩"), ("family", "👪"),
    ("ninja", "🥷"), ("zombie", "🧟"), ("unicorn", "🦄"), ("flag", "🏁"), ("checkered_flag", "🏁")]

/-- The characters that ask for a presentation. -/
def presentations : List (String × Char) := [("-text:", '\uFE0E'), ("-emoji:", '\uFE0F')]

/-- The presentation that the rest of a name asks for. -/
def presentation? (cs : List Char) : Option (List Char × List Char) :=
  presentations.findSome? fun (ending, variant) =>
    if ending.toList.isPrefixOf cs then some ([variant], cs.drop ending.length) else none

/-- A name after its first colon: the name, what follows the emoji, and the rest of the text. -/
def readName : List Char → Option (List Char × List Char × List Char)
  | [] => none
  | c :: rest =>
    match presentation? (c :: rest) with
    | some (variant, rest) => some ([], variant, rest)
    | none =>
      if c = ':' then some ([], [], rest)
      else if isBlank c then none
      else (readName rest).map fun (name, variant, rest) => (c :: name, variant, rest)

/-- Shows emoji in a text. A name that is not known uses up its colons. -/
def replaceWith : Nat → List Char → List Char
  | 0, cs => cs
  | _, [] => []
  | fuel + 1, c :: rest =>
    if c = ':' then
      match readName rest with
      | none => c :: replaceWith fuel rest
      | some (name, variant, after) =>
        match table.lookup (String.ofList (name.map Char.toLower)) with
        | some emoji => emoji.toList ++ variant ++ replaceWith fuel after
        | none => c :: rest.take (rest.length - after.length) ++ replaceWith fuel after
    else c :: replaceWith fuel rest

def replace (cs : List Char) : List Char := replaceWith cs.length cs

end LineJoin.Emoji
