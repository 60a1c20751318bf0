import LibraryDetection.Matching.Verdict

/-!
# Rankings

All libraries of a corpus that are found in an application, the best first.
-/

namespace LibraryDetection

set_option autoImplicit false

/-- The score that decides between equal ones: the aligned one where paths are looked at, and
zero otherwise. -/
def LibraryMatch.tieScore (settings : MatchSettings) (found : LibraryMatch) : Float :=
  if settings.pathAware then
    match found.alignedScore with
    | some score => score
    | none => 0.0
  else 0.0

/-- The order of a ranking: by score, by aligned score and by size, each falling, then by name
and by version. -/
def LibraryMatch.rankedBefore (settings : MatchSettings) (a b : LibraryMatch) : Bool :=
  if a.score == b.score then
    if a.tieScore settings == b.tieScore settings then
      if a.classCount = b.classCount then
        if a.description.name = b.description.name then
          textLe a.description.version b.description.version
        else textLe a.description.name b.description.name
      else b.classCount < a.classCount
    else b.tieScore settings < a.tieScore settings
  else b.score < a.score

def matchesOf (index : QueryIndex) (settings : MatchSettings) :
    List Fingerprint → Except ScoreError (List LibraryMatch)
  | [] => .ok []
  | fingerprint :: rest =>
      match fingerprint.match? index settings with
      | .error error => .error error
      | .ok found =>
          match matchesOf index settings rest with
          | .error error => .error error
          | .ok others => .ok (found.toList ++ others)

def matchCorpus (index : QueryIndex) (corpus : List Fingerprint) (settings : MatchSettings) :
    Except ScoreError (List LibraryMatch) :=
  (matchesOf index settings corpus).map (sortBy (LibraryMatch.rankedBefore settings))

def incompatible (index : QueryIndex) (corpus : List Fingerprint) : List Fingerprint :=
  corpus.filter fun fingerprint =>
    fingerprint.classCount ≠ 0 && fingerprint.options ≠ index.tree.options

end LibraryDetection
