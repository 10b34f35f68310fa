import Reckon.Text.Parts

/-!
# Names of characters

Every character has a name in capital letters, and some have short names too. Most names are of
several words; those of one word are listed here.
-/

namespace Reckon.CharacterName

/-- The names of one word in ascending order, without those of the variation selectors. -/
def directory : List String := [
  "ABACUS ACCORDION ACK ACKNOWLEDGE ADMETOS ADULT AIRPLANE AKTIESELSKAB ALEMBIC ALERT ALM",
  "AMBULANCE AMPERSAND AMPHORA ANCHOR ANGLE ANKH ANT APC APOLLON APOSTROPHE AQUARIUS ARC ARIES",
  "ASSERTION ASTERISK ASTERISM ASTRAEA AUBERGINE AUTOMOBILE AVOCADO AXE BABY BACKSPACE BACON",
  "BADGER BAGEL BALLOON BANANA BANJO BANK BASEBALL BASKET BAT BATH BATHTUB BATTERY BEANS BEAVER",
  "BECAUSE BED BEETLE BEL BELL BETWEEN BICYCLE BICYCLIST BIKINI BILLIARDS BIRD BISON BLOSSOM",
  "BLOWFISH BLUEBERRIES BOAR BOM BOMB BONE BOOK BOOKMARK BOOKS BOOMERANG BOUQUET BOWLING BOWTIE",
  "BOY BPH BRAIN BREAD BREAST-FEEDING BREVE BRICK BRIEFCASE BRIEFS BROCCOLI BROOM BS BUBBLES",
  "BUCKET BUG BULLET BULLHORN BULLSEYE BURRITO BUS BUTTER BUTTERFLY CACTUS CADUCEUS CALENDAR",
  "CAMERA CAMPING CAN CANCEL CANCER CANDLE CANDY CANOE CAPITULUM CAPRICORN CARET CARON CARROT",
  "CASTLE CAT CCH CEDILLA CERES CGJ CHAINS CHAIR CHERRIES CHESTNUT CHICKEN CHILD CHIPMUNK CHIRON",
  "CHOPSTICKS CHURCH CINEMA CITYSCAPE CLIPBOARD CLOUD COAT COCKROACH COCONUT COFFIN COIN COLON",
  "COMET COMMA COMPASS COMPLEMENT COMPRESSION CONJUNCTION COOKIE COOKING CORAL COUNTERBORE",
  "COUNTERSINK COW CR CRAB CRICKET CROCODILE CROISSANT CROWN CRUTCH CSI CUCUMBER CUPCAKE CUPIDO",
  "CUSTARD CUSTOMS CYCLONE CYLINDRICITY DAGGER DANCER DANGO DC1 DC2 DC3 DC4 DCS DEER DEL DELETE",
  "DESERT DIAERESIS DIVIDES DLE DOCUMENT DODO DOG DOLPHIN DOOR DOUGHNUT DRAGON DRESS DROPLET DUCK",
  "DUMPLING DVD EAGLE EAR EARTH EGG ELEPHANT ELEVATOR ELF ENQ ENQUIRY ENVELOPE EOL EOM EOT EPA",
  "ESA ESC ESCAPE ESTIMATES ETB ETX EXCESS EYE EYEGLASSES EYES FACTORY FAIRY FALAFEL FAMILY",
  "FEATHER FENCER FERRY FF FIRE FIRECRACKER FIREWORKS FISH FISHEYE FLAMINGO FLATBREAD FLATNESS",
  "FLEUR-DE-LIS FLOWER FLY FOG FOGGY FOLDER FONDUE FOOT FOOTPRINTS FORCES FORKING FOUNTAIN FROWN",
  "FS FSI FUSE FVS1 FVS2 FVS3 FVS4 GARLIC GEAR GEMINI GENIE GHOST GIRL GLOVES GOAT GOGGLES GOLFER",
  "GORILLA GRAPES GS GUARDSMAN GUITAR HADES HAIRCUT HAMBURGER HAMMER HAMSA HANDBAG HANDBALL",
  "HANDSHAKE HEADPHONE HEADSTONE HEDGEHOG HELICOPTER HERB HIBISCUS HIPPOPOTAMUS HOCHO HOLE",
  "HOMOTHETIC HONEYBEE HOOK HOP HORSE HOSPITAL HOTEL HOURGLASS HOUSE HT HTJ HTS HUT HYGIEA HYPHEN",
  "HYPHEN-MINUS HYPODIASTOLE IMP INCREMENT IND INDEX INFINITY INTEGRAL INTERCALATE INTERROBANG",
  "INTERSECTION JACK-O-LANTERN JAR JEANS JOIN JOYSTICK JUGGLING JUNO JUPITER KAABA KANGAROO KEY",
  "KEYBOARD KIMONO KISS KITE KIWIFRUIT KNOT KOALA KRONOS LABEL LADDER LEDGER LEG LEMON LEO",
  "LEOPARD LF LIBRA LIGHTNING LIPS LIPSTICK LIZARD LLAMA LOBSTER LOCK LOLLIPOP LOTUS LOZENGE LRE",
  "LRI LRM LRO LUGGAGE LUNGS MACRON MAGE MAGNET MAMMOTH MAN MANGO MAXIMIZE MELON MEMO MERCURY",
  "MERPERSON METRO MICROBE MICROPHONE MICROSCOPE MINIBUS MINIDISC MINIMIZE MINY MIRROR MMSP",
  "MODELS MONKEY MONORAIL MOSQUE MOSQUITO MOTORWAY MOUNTAIN MOUSE MOUTH MOYAI MULTIMAP MULTISET",
  "MUSHROOM MVS MW NABLA NAK NAND NBH NBSP NECKTIE NEL NEPTUNE NESSUS NEUTER NEWSPAPER NINJA NL",
  "NNBSP NONFORKING NOR NOSE NOTE NOTEBOOK NUL NULL OCTOPUS ODEN OGONEK OLIVE ONION OPHIUCHUS",
  "OPPOSITION ORANGUTAN OSC OTTER OVERLAP OVERLINE OWL OX OYSTER PACKAGE PAD PAGE PAGER PAGES",
  "PAGODA PALLAS PANCAKES PAPERCLIP PARACHUTE PARAGRAPHOS PARROT PDF PDI PEACH PEACOCK PEANUTS",
  "PEAR PEDESTRIAN PENCIL PENGUIN PENTAGRAM PERPENDICULAR PERSPECTIVE PHOLUS PICK PIE PIG PILL",
  "PINATA PINEAPPLE PISCES PISTOL PITCHFORK PLACARD PLD PLU PLUNGER PLUTO PM POODLE POPCORN",
  "POSEIDON POSTBOX POTATO POUCH PRECEDES PRETZEL PRIME PRINCE PRINCESS PRINTER PROJECTIVE",
  "PROPORTION PROSERPINA PU1 PU2 PURSE PUSHPIN QUINCUNX RABBIT RACCOON RADIO RAIN RAINBOW RAM RAT",
  "RATIO RAZOR RECEIPT RESPONSE RESTROOM RHINOCEROS RI RIBBON RIFLE RING RLE RLI RLM RLO ROCK",
  "ROCKET ROOSTER ROSE ROSETTE ROWBOAT RS RULE-DELAYED RUNNER SAGITTARIUS SAILBOAT SALTIRE",
  "SANDWICH SARI SATELLITE SATURN SAUROPOD SAXOPHONE SCALES SCARF SCHOOL SCI SCOOTER SCORPION",
  "SCORPIUS SCREEN SCREWDRIVER SCROLL SCRUPLE SEAL SEAT SECTOR SEDNA SEEDLING SEGMENT SELFIE",
  "SEMICOLON SEMISEXTILE SESQUIQUADRATE SEXTILE SGC SHAMROCK SHARK SHEEP SHIELD SHIP SHORTCAKE",
  "SHORTS SHOWER SHRIMP SHRUG SHY SI SINGLE-SHIFT-2 SINGLE-SHIFT-3 SKATEBOARD SKIER SKULL SKUNK",
  "SLED SLOPE SLOTH SMILE SNAIL SNAKE SNOWBOARDER SNOWFLAKE SNOWMAN SO SOCKS SOFTBALL SOH SOLIDUS",
  "SOS SP SPA SPACE SPAGHETTI SPARKLE SPARKLES SPEAKER SPEEDBOAT SPIDER SPONGE SPOON SQUID SS2",
  "SS3 SSA ST STADIUM STATION STETHOSCOPE STOPWATCH STRAIGHTNESS STRAWBERRY STS STUPA STX SUB",
  "SUBSTITUTE SUCCEEDS SUN SUNFLOWER SUNRISE SUPERHERO SUPERVILLAIN SURFER SUSHI SWAN SWIMMER",
  "SYMMETRY SYN SYNAGOGUE SYRINGE T-REX T-SHIRT TAB TACO TAMALE TANGERINE TAURUS TAXI TEAPOT",
  "TELESCOPE TELEVISION TENT THEREFORE THERMODYNAMIC THERMOMETER THUNDERSTORM TICKET TIGER TILDE",
  "TINY TOILET TOMATO TONGUE TOOLBOX TOOTH TOOTHBRUSH TRACKBALL TRACTOR TRAIN TRAM TRANSPLUTO",
  "TRICOLON TROLL TROLLEYBUS TROPHY TRUE TRUMPET TULIP TURKEY TURTLE UMBRELLA UNDERTIE UNION",
  "URANUS US VAMPIRE VERSICLE VESTA VIDEOCASSETTE VIOLIN VIRGO VOLCANO VOLLEYBALL VT VTS VULCANUS",
  "WAFFLE WASTEBASKET WATCH WATERMELON WEDDING WHALE WHEEL WINDOW WJ WOMAN WOOD WORM WRENCH",
  "WRESTLERS X-RAY XOR YO-YO ZEUS ZOMBIE ZWJ ZWNBSP ZWNJ ZWSP"]

/-- The short names of the variation selectors are numbered. -/
def selectors : List String := (List.range 256).map fun i => "VS" ++ toString (i + 1)

/-- Is the word the name of a character, in any case? -/
def isOneWord (name : List Char) : Bool :=
  let name := name.map Char.toUpper
  directory.any (fun line => (parts (· == ' ') line.toList).contains name)
    || selectors.contains (String.ofList name)

end Reckon.CharacterName
