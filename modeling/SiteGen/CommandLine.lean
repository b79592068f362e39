import SiteGen.Site

/-!
# The command line

* `CommandLine.read` reads the arguments; options come in a short and a long form, with their value
  attached or following.
* `CommandLine.run` runs the program on a disk, and gives what it prints and how it exits.
-/

namespace SiteGen.CommandLine

/-! ## Arguments -/

/-- What an argument **names**. -/
inductive Flag where
  /-- The directory of the workspace. -/
  | root
  /-- A site to run. -/
  | site
  /-- A kind of device. -/
  | kind
  /-- How much is logged. -/
  | level
  /-- The version is asked for. -/
  | version
  /-- Help is asked for. -/
  | help
deriving DecidableEq, Repr

/-- The flag with a long name. -/
def Flag.ofLong? : String → Option Flag
  | "root" => some .root
  | "site" => some .site
  | "device-kind" => some .kind
  | "log-level" => some .level
  | "version" => some .version
  | "help" => some .help
  | _ => none

/-- The flag with a letter. -/
def Flag.ofLetter? : Char → Option Flag
  | 'r' => some .root
  | 's' => some .site
  | 'k' => some .kind
  | 'l' => some .level
  | 'V' => some .version
  | 'h' => some .help
  | _ => none

/-- Whether a flag has a value. -/
def Flag.hasValue : Flag → Bool
  | .version | .help => false
  | _ => true

/-- The levels of logging. -/
def levels : List String := ["error", "warn", "info", "debug", "trace"]

/-- What is **asked for**. -/
structure Options where
  /-- The directory of the workspace. -/
  root : Option String := none
  /-- The sites to run. -/
  sites : List String := []
  /-- The kinds of devices. -/
  kinds : List String := []
  /-- How much is logged. -/
  level : Option String := none
deriving DecidableEq, Repr

/-- Why the arguments are **not carried out**. -/
inductive Stop where
  /-- The version is asked for. -/
  | version
  /-- Help is asked for. -/
  | help
  /-- The arguments are wrong. -/
  | usage
deriving DecidableEq, Repr

/-- With the value of a flag; a directory and a level may be given once. -/
def Options.set (o : Options) (flag : Flag) (value : String) : Except Stop Options :=
  match flag with
  | .root =>
    if o.root.isSome || value.isEmpty then .error .usage else .ok { o with root := some value }
  | .site => .ok { o with sites := o.sites ++ [value] }
  | .kind => .ok { o with kinds := o.kinds ++ [value] }
  | .level =>
    if o.level.isSome || !levels.contains value then .error .usage
    else .ok { o with level := some value }
  | .version => .error .version
  | .help => .error .help

/-- A text up to the first equals sign, and what comes after it. -/
def splitEquals : List Char → List Char × Option (List Char)
  | [] => ([], none)
  | '=' :: rest => ([], some rest)
  | c :: rest =>
    let (name, value) := splitEquals rest
    (c :: name, value)

/-- Reads a long name with what may be attached to it: the options so far, and a flag whose value
follows. -/
def readLong (o : Options) (text : List Char) : Except Stop (Options × Option Flag) :=
  let (name, value) := splitEquals text
  match Flag.ofLong? (String.ofList name), value with
  | none, _ => .error .usage
  | some flag, some value =>
    if flag.hasValue then (o.set flag (String.ofList value)).map (·, none) else .error .usage
  | some flag, none =>
    if flag.hasValue then .ok (o, some flag) else (o.set flag "").map (·, none)

/-- Reads letters, the last of which may have its value attached. -/
def readLetters (o : Options) : List Char → Except Stop (Options × Option Flag)
  | [] => .ok (o, none)
  | c :: rest =>
    match Flag.ofLetter? c with
    | none => .error .usage
    | some flag =>
      if !flag.hasValue then
        match o.set flag "" with
        | .ok o => readLetters o rest
        | .error stop => .error stop
      else match rest with
        | [] => .ok (o, some flag)
        | '=' :: value => (o.set flag (String.ofList value)).map (·, none)
        | value => (o.set flag (String.ofList value)).map (·, none)

/-- Reads arguments; `pending` is the flag whose value comes next. -/
def readFrom (o : Options) (pending : Option Flag) : List String → Except Stop Options
  | [] => if pending.isSome then .error .usage else .ok o
  | arg :: rest =>
    match arg.toList, pending with
    | '-' :: '-' :: [], _ =>
      if pending.isSome || !rest.isEmpty then .error .usage else .ok o
    | '-' :: '-' :: text, none =>
      match readLong o text with
      | .ok (o, pending) => readFrom o pending rest
      | .error stop => .error stop
    | '-' :: c :: text, none =>
      match readLetters o (c :: text) with
      | .ok (o, pending) => readFrom o pending rest
      | .error stop => .error stop
    | '-' :: _ :: _, some _ => .error .usage
    | _, none => .error .usage
    | _, some flag =>
      match o.set flag arg with
      | .ok o => readFrom o none rest
      | .error stop => .error stop

/-- **Reads** the arguments. -/
def read (args : List String) : Except Stop Options := readFrom {} none args

/-! ## Running -/

/-- What a run of the program leaves. -/
structure Outcome where
  /-- The number with which it exits. -/
  exit : Nat
  /-- What it prints. -/
  output : String
  /-- What it prints as an error. -/
  error : String
deriving DecidableEq, Repr

/-- The line in front of a site. -/
def banner (name : String) : String := "\n------" ++ name ++ "------\n\n"

/-- Runs sites one after the other: what is printed, and the error that stops them. -/
def runSites (w : Workspace) (quiet : Bool) : List String → World → String × Option Error × World
  | [], world => ("", none, world)
  | name :: rest, world =>
    let site : Site := ⟨name, w⟩
    let printed := if quiet then banner name else ""
    match (do site.enter; site.generate : Run Summary).on world with
    | (.error e, world) => (printed, some e, world)
    | (.ok _, world) =>
      let (more, e, world) := runSites w quiet rest world
      (printed ++ more, e, world)

/-- The wording of an error. -/
def errorText (e : Error) : String :=
  "Error: " ++ e.message?.getD "YAML error: the text is malformed" ++ "\n"

/-- Whether sites are announced on the output, rather than in the log. -/
def isQuiet (level : String) : Bool := level == "error" || level == "warn"

/-- Runs what is asked for; `root` is the directory of the workspace. -/
def runOptions (o : Options) (root : String) (world : World) : Outcome × World :=
  let w : Workspace := ⟨Path.ofText root, if o.kinds.isEmpty then standardKinds else o.kinds⟩
  match (w.select o.sites).on world with
  | (.error e, world) => (⟨1, "", errorText e⟩, world)
  | (.ok names, world) =>
    match runSites w (isQuiet (o.level.getD "warn")) names world with
    | (printed, some e, world) => (⟨1, printed, errorText e⟩, world)
    | (printed, none, world) => (⟨0, printed ++ "Finished!\n", ""⟩, world)

/-- What is printed when the version is asked for. -/
def versionText : String := "variance 0.2.0\n"

/-- What is printed when help is asked for. -/
def helpText : String :=
  "Usage: variance [--root DIR] [--site SITE]... [--device-kind KIND]... [--log-level LEVEL]\n"

/-- **Runs** the program with arguments, and with the directory of the workspace that the environment
gives, if it gives one. -/
def run (args : List String) (environment : Option String) (world : World) : Outcome × World :=
  match read args with
  | .error .version => (⟨0, versionText, ""⟩, world)
  | .error .help => (⟨0, helpText, ""⟩, world)
  | .error .usage => (⟨2, "", helpText⟩, world)
  | .ok o =>
    match o.root.or environment with
    | some "" => (⟨2, "", helpText⟩, world)
    | root => runOptions o (root.getD ".") world

end SiteGen.CommandLine
