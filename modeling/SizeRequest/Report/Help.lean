import SizeRequest.Report.Table
import SizeRequest.Resolve

namespace SizeRequest

/-- The description of a flag; without an example it takes no value. -/
structure FlagHelp where
  name : String
  sample : Option String
  optional : Bool
  description : String
deriving DecidableEq

structure CommandHelp where
  name : String
  description : String
  flags : List FlagHelp
deriving DecidableEq

namespace FlagHelp

def usage (flag : FlagHelp) : String :=
  let written := match flag.sample with
    | some sample => "--" ++ flag.name ++ "=<" ++ sample ++ ">"
    | none => "--" ++ flag.name
  if flag.optional then "[" ++ written ++ "]" else written

def row (flag : FlagHelp) : List String :=
  ["--" ++ flag.name, flag.sample.getD "", if flag.optional then "no" else "yes",
    flag.description]

end FlagHelp

namespace CommandHelp

def synopsis (help : CommandHelp) : String :=
  Text.join " " (help.name :: help.flags.map FlagHelp.usage)

def table (help : CommandHelp) : Table where
  header := ["Flag", "Example", "Required", "Description"]
  rows := help.flags.map FlagHelp.row

def render (help : CommandHelp) : String :=
  help.name ++ "\n\n" ++ help.description ++ "\n\nSynopsis:\n    " ++ help.synopsis ++ "\n\n"
    ++ help.table.render

def pieces (help : CommandHelp) : List String := [help.render, "\n\n"]

def getSize : CommandHelp where
  name := Request.commandName
  description :=
    "Gets the over-the-wire sizes (sorted desc) of APKs served to different devices "
      ++ "configurations from an APK Set."
  flags := [
    { name := Request.archiveFlag.name
      sample := some "archive.apks"
      optional := false
      description := "Path to the archive file generated by the 'build-apks' command." },
    { name := Request.specFlag.name
      sample := some "device-spec.json"
      optional := true
      description :=
        "Path to the device spec file to be used for matching (defaults to empty device spec). "
          ++ "Note that partial specifications are allowed in the file as opposed to the spec "
          ++ "generated by 'get-device-spec'." },
    { name := Request.dimensionsFlag.name
      sample := some (Text.join "," (Dimension.values.map Dimension.name))
      optional := true
      description :=
        "Specifies which dimensions to expand the sizes in the output against. Note that ALL is "
          ++ "a shortcut to all other dimensions and including ALL here would cause the output to "
          ++ "be expanded over all possible dimensions." },
    { name := Request.modulesFlag.name
      sample := some "base,module1,module2"
      optional := true
      description :=
        "List of modules to run this report on (defaults to all the modules installed during the "
          ++ "first download). Note that the dependent modules will also be considered. "
          ++ "Standalone APKs are ignored for size calculation when this flag is set." },
    { name := Request.instantFlag.name
      sample := none
      optional := true
      description :=
        "When set, APKs of the instant modules will be considered instead of the installable "
          ++ "APKs. Defaults to false." }]

def all : List CommandHelp := [getSize]

def names : List String := all.map CommandHelp.name

def ofName? (name : String) : Option CommandHelp := all.find? (·.name == name)

end CommandHelp

end SizeRequest
