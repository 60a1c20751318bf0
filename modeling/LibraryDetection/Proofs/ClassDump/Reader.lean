import LibraryDetection.ClassDump.Reader
import Mathlib.Data.List.Perm.Basic

/-!
# Records read one by one

What a record tells does not depend on its place in the dump, so that the classes of a dump
are those of its records, in their order.
-/

namespace LibraryDetection.DumpedClass

set_option autoImplicit false

variable {items others : List Json} {classes : List DumpedClass}

theorem of_json_of_of_json {index : Nat} {item : Json} {dumped : DumpedClass}
    (read : ofJson index item = .ok dumped) (other : Nat) : ofJson other item = .ok dumped := by
  cases item with
  | object fields =>
      rw [ofJson] at read ⊢
      split at read
      · split at read
        · cases read
        · rename_i nonempty
          rw [if_neg nonempty]
          exact read
      · cases read
  | _ => cases read

theorem all_of_json_eq_ok_iff (index : Nat) :
    allOfJson index items = .ok classes ↔
      List.Forall₂ (fun item dumped => ofJson 0 item = .ok dumped) items classes := by
  induction items generalizing index classes with
  | nil =>
      rw [allOfJson, Except.ok.injEq]
      constructor
      · rintro rfl
        exact .nil
      · intro pairs
        cases pairs
        rfl
  | cons item rest ih =>
      rw [allOfJson]
      constructor
      · intro done
        split at done
        · cases done
        · rename_i dumped first
          split at done
          · cases done
          · rename_i more below
            cases done
            exact .cons (of_json_of_of_json first 0) ((ih (index + 1)).1 below)
      · intro pairs
        cases pairs with
        | @cons _ dumped _ more first below =>
            rw [of_json_of_of_json first index, (ih (index + 1)).2 below]

theorem exists_all_of_json_of_perm (same : others.Perm items)
    (read : allOfJson 0 items = .ok classes) :
    ∃ reordered, allOfJson 0 others = .ok reordered ∧ reordered.Perm classes := by
  have composed := List.perm_comp_forall₂ same ((all_of_json_eq_ok_iff 0).1 read)
  obtain ⟨reordered, pairs, ordered⟩ := composed
  exact ⟨reordered, (all_of_json_eq_ok_iff 0).2 pairs, ordered⟩

theorem all_of_json_append {more : List DumpedClass} (first : allOfJson 0 items = .ok classes)
    (second : allOfJson 0 others = .ok more) :
    allOfJson 0 (items ++ others) = .ok (classes ++ more) := by
  rw [all_of_json_eq_ok_iff] at *
  exact List.rel_append first second

theorem of_name_mem_all (name : String) : ClassKind.ofName name ∈ ClassKind.all := by
  rw [ClassKind.ofName]
  split
  · decide
  · split <;> decide

theorem mem_all_of_kind_in {className : String} {fields : List (String × Json)} {kind : ClassKind}
    (found : kindIn className fields = .ok kind) : kind ∈ ClassKind.all := by
  rw [kindIn] at found
  split at found
  · cases found
    exact of_name_mem_all className
  · cases found
    exact of_name_mem_all className
  · split at found
    · rename_i known
      cases found
      exact List.mem_of_find?_eq_some known
    · cases found
  · cases found

theorem kind_mem_all_of_of_json {index : Nat} {item : Json} {dumped : DumpedClass}
    (read : ofJson index item = .ok dumped) : dumped.kind ∈ ClassKind.all := by
  cases item with
  | object fields =>
      rw [ofJson] at read
      split at read
      · split at read
        · cases read
        · rw [ofFields] at read
          split at read
          · cases read
          · rename_i kind found
            split at read
            · cases read
            · split at read
              · cases read
              · cases read
                exact mem_all_of_kind_in found
      · cases read
  | _ => cases read

theorem kind_mem_all_of_all_of_json {index : Nat} (read : allOfJson index items = .ok classes) :
    ∀ dumped ∈ classes, dumped.kind ∈ ClassKind.all := by
  intro dumped member
  have pairs := (all_of_json_eq_ok_iff index).1 read
  clear read
  induction pairs with
  | nil => cases member
  | @cons item first _ _ isFirst _ ih =>
      rcases List.mem_cons.1 member with rfl | inRest
      · exact kind_mem_all_of_of_json isFirst
      · exact ih inRest

end LibraryDetection.DumpedClass
