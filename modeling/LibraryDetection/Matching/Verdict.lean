import LibraryDetection.Fingerprint.Basic
import LibraryDetection.Matching.Alignment
import LibraryDetection.Matching.Evidence
import LibraryDetection.Matching.Settings

/-!
# Verdicts

A library is found exactly when each of its hash trees stands somewhere in the
application, and in part when enough of its classes do.
-/

namespace LibraryDetection

set_option autoImplicit false

inductive Strategy
  | exact
  | inPart
  deriving DecidableEq, Repr

def Strategy.label : Strategy → String
  | .exact => "exact"
  | .inPart => "partial"

structure LibraryMatch where
  description : LibraryDescription
  score : Float
  matchedClasses : Int
  /-- The classes of the library. -/
  classCount : Int
  strategy : Strategy
  looseScore : Float
  /-- The score with paths, when they were looked at. -/
  alignedScore : Option Float
  matchedPackages : Nat
  /-- The package of the application where the library stands. -/
  location : Option String

/-- Why there is no score: one count is so many times larger than the other that their quotient
is beyond all finite values. -/
inductive ScoreError
  | tooLarge
  deriving DecidableEq, Repr

def ScoreError.message : ScoreError → String
  | .tooLarge => "integer division result too large for a float"

def ratio (part whole : Int) : Except ScoreError Float :=
  match Number.quotient? part whole with
  | some score => .ok score
  | none => .error .tooLarge

/-- The places of all trees in the query, if each has one.  A tree is looked up by its subtree
hash alone, so that two equal trees have one place. -/
def exactPaths? (index : QueryIndex) : List HashTree → Option (List PackagePath)
  | [] => some []
  | tree :: trees =>
      match index.subtreePath? tree.subtreeHash, exactPaths? index trees with
      | some path, some paths => some (path :: paths)
      | _, _ => none

namespace Fingerprint

def packageCount (fingerprint : Fingerprint) : Nat :=
  (fingerprint.hashTrees.flatMap HashTree.nodeHashBag).length

def exactMatch (fingerprint : Fingerprint) (settings : MatchSettings)
    (paths : List PackagePath) : LibraryMatch :=
  { description := fingerprint.description
    score := 1.0
    matchedClasses := fingerprint.classCount
    classCount := fingerprint.classCount
    strategy := .exact
    looseScore := 1.0
    alignedScore := if settings.pathAware then some 1.0 else none
    matchedPackages := fingerprint.packageCount
    location := paths.head?.map PackagePath.dotted }

structure Counts where
  total : Int
  loose : Nat × Nat
  /-- The alignment, when paths are looked at. -/
  aligned : Option Anchor

def counts (fingerprint : Fingerprint) (index : QueryIndex) (settings : MatchSettings) :
    Counts :=
  { total := fingerprint.classCount
    loose := looseEvidence fingerprint.hashTrees index
    aligned :=
      if settings.pathAware then some (alignTrees index fingerprint.hashTrees) else none }

def mixedScore (settings : MatchSettings) (loose : Float) : Option Float → Float
  | none => loose
  | some aligned =>
      (1.0 - settings.pathAwareWeight) * loose + settings.pathAwareWeight * aligned

/-- The share of the library that was aligned, when paths are looked at. -/
def Counts.alignedShare (counts : Counts) : Except ScoreError (Option Float) :=
  match counts.aligned with
  | none => .ok none
  | some anchor => (ratio anchor.matched counts.total).map some

def Counts.isEmpty (counts : Counts) : Bool :=
  counts.loose.1 = 0 && (counts.aligned.map (·.matched)).getD 0 = 0

/-- The verdict on counts: none without a matched class and none below the least score. -/
def partialMatch? (fingerprint : Fingerprint) (settings : MatchSettings) (counts : Counts) :
    Except ScoreError (Option LibraryMatch) :=
  match ratio counts.loose.1 counts.total with
  | .error error => .error error
  | .ok loose =>
      match counts.alignedShare with
      | .error error => .error error
      | .ok aligned =>
          let score := mixedScore settings loose aligned
          if counts.isEmpty then .ok none
          else if score < settings.minScore then .ok none
          else .ok (some
            { description := fingerprint.description
              score
              matchedClasses := counts.loose.1
              classCount := counts.total
              strategy := .inPart
              looseScore := loose
              alignedScore := aligned
              matchedPackages := counts.loose.2
              location := (counts.aligned.bind (·.path)).map PackagePath.dotted })

/-- The verdict on one library.  An empty fingerprint and one under other options than
the query are never found. -/
def match? (fingerprint : Fingerprint) (index : QueryIndex) (settings : MatchSettings) :
    Except ScoreError (Option LibraryMatch) :=
  if fingerprint.classCount = 0 then .ok none
  else if fingerprint.options ≠ index.tree.options then .ok none
  else match exactPaths? index fingerprint.hashTrees with
    | some paths => .ok (some (fingerprint.exactMatch settings paths))
    | none => fingerprint.partialMatch? settings (fingerprint.counts index settings)

end Fingerprint

end LibraryDetection
