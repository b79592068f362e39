import SiteGen.Disk.Fault
import SiteGen.Glob.Reader
import SiteGen.Json.Reader
import SiteGen.Path
import SiteGen.Yaml.Decode
import SiteGen.Yaml.Reader

/-!
# Errors

Why a run stops.

* `Error.message` is the wording. An error that speaks of a place in a YAML text has none.
-/

namespace SiteGen

/-- Why a part of an override file **cannot be used**. -/
inductive YamlError where
  /-- The text is not read. -/
  | unread (e : Yaml.ReadError)
  /-- A value is not what it should be. -/
  | undecoded (e : DecodeError)

/-- The wording of an error, unless it speaks of a place in the text. -/
def YamlError.message? : YamlError → Option String
  | .unread e => e.message?
  | .undecoded e => some e.message

/-- Why a run **stops**. -/
inductive Error where
  /-- A file cannot be read or written. -/
  | disk (fault : Fault)
  /-- A file does not exist. -/
  | fileNotFound (path : Path)
  /-- A template entry lacks a field. -/
  | missingField (field template : String)
  /-- The kind of a filename pattern is not known. -/
  | unsupportedPattern (kind template : String)
  /-- A filename would be the same for every value. -/
  | missingPlaceholder (template : String)
  /-- A template file does not exist. -/
  | templateNotFound (path : Path)
  /-- There are not as many values as files. -/
  | countMismatch (target : String) (values files : Nat)
  /-- An entry of the list of replacements cannot be used. -/
  | invalidReplacement (index : Nat) (cause : DecodeError)
  /-- A device has no such variant. -/
  | invalidVariant (device variant : String) (path : Path)
  /-- A device has several variants, and none is chosen. -/
  | missingVariant (site device : String)
  /-- A setting has a value of the wrong form. -/
  | invalidSetting (key : String) (cause : DecodeError)
  /-- A range of numbers is too long. -/
  | rangeTooLarge (template : String) (low high : Int) (limit : Nat)
  /-- A test fixture is not JSON. -/
  | invalidFixture (path : Path) (cause : Json.SyntaxError)
  /-- A pattern is no glob. -/
  | glob (cause : GlobError)
  /-- A directory cannot be gone through. -/
  | walk (path : Path) (fault : Fault)
  /-- A text is not JSON. -/
  | json (cause : Json.SyntaxError)
  /-- An override file cannot be used. -/
  | yaml (cause : YamlError)

namespace Error

/-- An error because of a value that is not what it should be. -/
def ofDecode (e : DecodeError) : Error := .yaml (.undecoded e)

/-- An error because of a text that is not read. -/
def ofRead (e : Yaml.ReadError) : Error := .yaml (.unread e)

/-- The **wording** of an error, unless it speaks of a place in a YAML text. -/
def message? : Error → Option String
  | .disk fault => some ("IO error: " ++ fault.message)
  | .fileNotFound path => some ("File not found: " ++ path.text)
  | .missingField field template =>
    some ("Missing required field '" ++ field ++ "' in template '" ++ template ++ "'")
  | .unsupportedPattern kind template =>
    some ("Pattern type '" ++ kind ++ "' is not supported (template '" ++ template ++ "')")
  | .missingPlaceholder template =>
    some ("Filename template '" ++ template ++
      "' does not contain the \x7b\x7btarget\x7d\x7d placeholder")
  | .templateNotFound path =>
    some ("Template file '" ++ path.text ++ "' does not exist or is not a file")
  | .countMismatch target values files =>
    some ("The number of values provided is not the same as the number of templates expanded for '"
      ++ target ++ "': " ++ toString values ++ " values, " ++ toString files ++ " files")
  | .invalidReplacement index cause =>
    some ("Invalid replacement #" ++ toString index ++ ": " ++ cause.message)
  | .invalidVariant device variant path =>
    some ("'" ++ variant ++ "' is not a valid variant of '" ++ device ++ "': " ++ path.text ++
      " does not exist")
  | .missingVariant site device =>
    some (site ++ "'s " ++ device ++ " has variants, but no variant key was found")
  | .invalidSetting key cause => some ("Invalid value for '" ++ key ++ "': " ++ cause.message)
  | .rangeTooLarge template low high limit =>
    some ("Range " ++ toString low ++ "..=" ++ toString high ++ " of template '" ++ template ++
      "' exceeds " ++ toString limit ++ " files")
  | .invalidFixture path cause =>
    some ("Unable to parse test file " ++ path.text ++ ": " ++ cause.message)
  | .glob cause => some ("Glob error: " ++ cause.message)
  | .walk path fault =>
    some ("Directory traversal error: IO error for operation on " ++ path.text ++ ": " ++
      fault.message)
  | .json cause => some ("JSON error: " ++ cause.message)
  | .yaml cause => cause.message?.map ("YAML error: " ++ ·)

end Error

end SiteGen
