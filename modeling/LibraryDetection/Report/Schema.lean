import LibraryDetection.Fingerprint.Record
import LibraryDetection.Json.Writer
import LibraryDetection.Matching.Verdict

/-!
# The schema of match reports

A description of the JSON form of a match report, itself as JSON.
-/

namespace LibraryDetection.ReportSchema

set_option autoImplicit false

open Json (text texts)

def orNull (type : List (String × Json)) : Json :=
  .list [.object type, .object [("type", text "null")]]

def property (title type : String) : Json :=
  .object [("title", text title), ("type", text type)]

def nullableProperty (title : String) (type : List (String × Json)) : Json :=
  .object [("anyOf", orNull type), ("default", .null), ("title", text title)]

def defaultProperty (title type : String) (absent : Json) : Json :=
  .object [("default", absent), ("title", text title), ("type", text type)]

def listProperty (title : String) (item : Json) : Json :=
  .object
    [("default", .list []),
      ("items", item),
      ("title", text title),
      ("type", text "array")]

def reference (name : String) : Json := .object [("$ref", text ("#/$defs/" ++ name))]

def typed (type : String) : List (String × Json) := [("type", text type)]

def structureFields (title description : String) (properties : List (String × Json))
    (required : List String) : List (String × Json) :=
  [("description", text description),
    ("properties", .object properties),
    ("required", texts required),
    ("title", text title),
    ("type", text "object")]

def library : Json :=
  .object (structureFields "LibraryDescription"
    "Library identity, supplied by the library metadata file."
    [("name", property "Name" "string"),
      ("version", property "Version" "string"),
      ("category", .object
        [("default", text Category.unknown.label),
          ("enum", texts (Category.all.map Category.label)),
          ("title", text "Category"),
          ("type", text "string")]),
      ("release_date", nullableProperty "Release Date"
        [("format", text "date"), ("type", text "string")]),
      ("comment", nullableProperty "Comment" (typed "string"))]
    ["name", "version"])

def entry : Json :=
  .object (structureFields "MatchEntry" "A single reported library match."
    [("library", reference "LibraryDescription"),
      ("score", property "Score" "number"),
      ("strategy", .object
        [("enum", texts [Strategy.exact.label, Strategy.inPart.label]),
          ("title", text "Strategy"),
          ("type", text "string")]),
      ("matched_classes", property "Matched Classes" "integer"),
      ("library_classes", property "Library Classes" "integer"),
      ("path_agnostic_score", property "Path Agnostic Score" "number"),
      ("path_aware_score", nullableProperty "Path Aware Score" (typed "number")),
      ("matched_packages", defaultProperty "Matched Packages" "integer" (.whole 0)),
      ("location", nullableProperty "Location" (typed "string"))]
    ["library", "score", "strategy", "matched_classes", "library_classes",
      "path_agnostic_score"])

def runFields : Json :=
  .object (structureFields "MatchReportMeta" "Run metadata."
    [("app", property "App" "string"),
      ("app_classes", property "App Classes" "integer"),
      ("corpus_size", property "Corpus Size" "integer"),
      ("min_score", property "Min Score" "number"),
      ("path_aware", property "Path Aware" "boolean"),
      ("warnings", listProperty "Warnings" (.object (typed "string"))),
      ("error", nullableProperty "Error" (typed "string")),
      ("timing_ms", nullableProperty "Timing Ms" (typed "number"))]
    ["app", "app_classes", "corpus_size", "min_score", "path_aware"])

def matchReport : Json :=
  .object (("$defs", .object
      [("LibraryDescription", library), ("MatchEntry", entry), ("MatchReportMeta", runFields)])
    :: structureFields "MatchReport" "Top-level match output."
      [("schema_version", defaultProperty "Schema Version" "string" (text schemaVersion)),
        ("meta", reference "MatchReportMeta"),
        ("matches", listProperty "Matches" (reference "MatchEntry"))]
      ["meta"])

def printed : String := Json.write Json.listStyle matchReport

end LibraryDetection.ReportSchema
