import Narration.CommandLine.Flag

/-! # Arguments

The one command of the command line, its flags, and what a call says. A flag that comes twice counts
as it comes last. -/
namespace Narration.CommandLine

/-- What a being is described by. -/
inductive Part
  | person
  | name
  | gender
  | specific
  deriving DecidableEq

/-- What a flag is about. -/
inductive Key
  | template
  | input
  | user (p : Part)
  | target (p : Part)
  | noCapitalize
  deriving DecidableEq

structure BeingArguments where
  person : Given := .text "3"
  name : Option Given := none
  gender : Given := .text "genderless"
  specific : Option Given := none
  deriving DecidableEq

structure Arguments where
  template : Option Given := none
  input : Option Given := none
  user : BeingArguments := {}
  target : BeingArguments := {}
  capitalize : Bool := true
  deriving DecidableEq

def BeingArguments.set (p : Part) (value : Given) (b : BeingArguments) : BeingArguments :=
  match p with
  | .person => { b with person := value }
  | .name => { b with name := some value }
  | .gender => { b with gender := value }
  | .specific => { b with specific := some value }

def Arguments.set (a : Arguments) : Key × Given → Arguments
  | (.template, value) => { a with template := some value }
  | (.input, value) => { a with input := some value }
  | (.user p, value) => { a with user := a.user.set p value }
  | (.target p, value) => { a with target := a.target.set p value }
  | (.noCapitalize, _) => { a with capitalize := false }

def helpFlag : Flag Key := ⟨none, ["-h", "--help"], false⟩

/-- The flags before the command. -/
def topFlags : FlagTable Key := { flags := [helpFlag] }

/-- The flags of the command. -/
def renderFlags : FlagTable Key :=
  { flags :=
    [helpFlag, ⟨some .template, ["--template", "-t"], true⟩, ⟨some .input, ["--input", "-i"], true⟩,
      ⟨some (.user .person), ["--user-person"], true⟩, ⟨some (.user .name), ["--user-name"], true⟩,
      ⟨some (.user .gender), ["--user-gender"], true⟩,
      ⟨some (.user .specific), ["--user-specific"], true⟩,
      ⟨some (.target .person), ["--target-person"], true⟩,
      ⟨some (.target .name), ["--target-name"], true⟩,
      ⟨some (.target .gender), ["--target-gender"], true⟩,
      ⟨some (.target .specific), ["--target-specific"], true⟩,
      ⟨some .noCapitalize, ["--no-capitalize"], false⟩] }

/-- Lines of text, each but the last with a line feed behind it. -/
def paragraph (lines : List String) : Text := Text.joined "\n" (lines.map Text.ofString)

def topHelp : Text := paragraph
  ["usage: phrasing-cli [-h] \x7brender\x7d ...",
    "",
    "Render message templates with person- and gender-aware pronouns.",
    "",
    "options:",
    "  -h, --help  show this help message and exit",
    "",
    "commands:",
    "  \x7brender\x7d",
    "    render    Render one template.",
    ""]

def renderHelp : Text := paragraph
  ["usage: phrasing-cli render [-h] [--template TEMPLATE] [--input PATH]",
    "                           [--user-person USER_PERSON] [--user-name USER_NAME]",
    "                           [--user-gender USER_GENDER]",
    "                           [--user-specific USER_SPECIFIC]",
    "                           [--target-person TARGET_PERSON]",
    "                           [--target-name TARGET_NAME]",
    "                           [--target-gender TARGET_GENDER]",
    "                           [--target-specific TARGET_SPECIFIC]",
    "                           [--no-capitalize]",
    "",
    "options:",
    "  -h, --help            show this help message and exit",
    "  --template TEMPLATE, -t TEMPLATE",
    "                        Template text, e.g. '@I jumped with @my spear at",
    "                        ~user!'.",
    "  --input PATH, -i PATH",
    "                        Path to a JSON RenderRequest. '-' reads from stdin.",
    "                        Overrides the other flags.",
    "  --user-person USER_PERSON",
    "                        Grammatical person of the user: 1, 2 or 3 (default:",
    "                        3).",
    "  --user-name USER_NAME",
    "                        General name of the user (e.g. 'goblin').",
    "  --user-gender USER_GENDER",
    "                        Gender of the user (male, female, genderless, they,",
    "                        additional, other, plural).",
    "  --user-specific USER_SPECIFIC",
    "                        Optional specific name of the user (e.g. 'Brunhilda').",
    "  --target-person TARGET_PERSON",
    "                        Grammatical person of the target: 1, 2 or 3 (default:",
    "                        3).",
    "  --target-name TARGET_NAME",
    "                        General name of the target (e.g. 'goblin').",
    "  --target-gender TARGET_GENDER",
    "                        Gender of the target (male, female, genderless, they,",
    "                        additional, other, plural).",
    "  --target-specific TARGET_SPECIFIC",
    "                        Optional specific name of the target (e.g.",
    "                        'Brunhilda').",
    "  --no-capitalize       Do not upper-case the first letter of the output.",
    ""]

/-- Why a call is not carried out: it asks for help, or it is wrong, as seen by the program as a
whole or by its command. -/
inductive Refusal
  | help (text : Text)
  | usage (program : Text) (e : UsageError)
  deriving DecidableEq

def topName : Text := "phrasing-cli"

def renderName : Text := "phrasing-cli render"

/-- The last line of the complaint about a wrong call. Line feeds at its end do not count. -/
def complaint (program : Text) (e : UsageError) : Text :=
  let lineFeed : CodePoint := .char '\n'
  let text := program ++ ": error: " ++ e.message
  let ended := (text.reverse.dropWhile (· == lineFeed)).reverse
  (Text.splitAt lineFeed ended).getLast?.getD []

variable [Host]

/-- The words of the command behind its name, and the unknown words before it. -/
def command : List (Text × Reading Key) → Except Refusal (List Text × List Text)
  | [] => .error (.usage topName .noCommand)
  | (word, .plain) :: rest =>
    if word = "render" then .ok ([], rest.map (·.1))
    else .error (.usage topName (.unknownCommand word))
  | [(_, .separator)] => .error (.usage topName .noCommand)
  | (word, .separator) :: _ => .error (.usage topName (.unknownCommand word))
  | (_, .flag f short attached) :: _ =>
    match topFlags.open? f short attached with
    | .error e => .error (.usage topName e)
    | .ok _ => .error (.help topHelp)
  | (word, .unknown) :: rest => (command rest).map fun (extras, words) => (word :: extras, words)

def stopped : Stop → Refusal
  | .help => .help renderHelp
  | .usage e => .usage renderName e

/-- What the words of a call say. -/
def Arguments.ofWords (words : List Text) : Except Refusal Arguments := do
  let read ← (topFlags.readAll words).mapError (.usage topName)
  let (before, rest) ← command read
  let read ← (renderFlags.readAll rest).mapError (.usage renderName)
  let parsed ← (renderFlags.parse read).mapError stopped
  match before ++ parsed.extras with
  | [] => .ok (parsed.flags.foldl Arguments.set {})
  | extras => .error (.usage topName (.unrecognized extras))

end Narration.CommandLine
