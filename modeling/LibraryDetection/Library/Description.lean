import LibraryDetection.Library.Date
import LibraryDetection.Json.Value

/-!
# Library descriptions

The identity of a library: its name, its version and what is known about it beside.
-/

namespace LibraryDetection

set_option autoImplicit false

inductive Category
  | advertising
  | analytics
  | android
  | cloud
  | socialMedia
  | utilities
  | unknown
  deriving DecidableEq, Repr, Inhabited

namespace Category

def all : List Category :=
  [.advertising, .analytics, .android, .cloud, .socialMedia, .utilities, .unknown]

def label : Category → String
  | .advertising => "Advertising"
  | .analytics => "Analytics"
  | .android => "Android"
  | .cloud => "Cloud"
  | .socialMedia => "SocialMedia"
  | .utilities => "Utilities"
  | .unknown => "Unknown"

def ofLabel? (label : String) : Option Category := all.find? (·.label = label)

theorem of_label?_label (category : Category) : ofLabel? category.label = some category := by
  cases category <;> decide

end Category

structure LibraryDescription where
  name : String
  version : String
  category : Category := .unknown
  releaseDate : Option Date := none
  comment : Option String := none
  deriving DecidableEq

namespace LibraryDescription

def label (description : LibraryDescription) : String :=
  description.name ++ " " ++ description.version

def fields (description : LibraryDescription) : List (String × Json) :=
  [("name", .text description.name),
    ("version", .text description.version),
    ("category", .text description.category.label),
    ("release_date", Json.ofOption (fun date => .text date.text) description.releaseDate),
    ("comment", Json.ofOption .text description.comment)]

def toJson (description : LibraryDescription) : Json := .object description.fields

end LibraryDescription

end LibraryDetection
