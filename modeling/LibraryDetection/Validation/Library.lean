import LibraryDetection.Validation.Day
import LibraryDetection.Library.Description

/-!
# Checked library descriptions
-/

namespace LibraryDetection.Validation

set_option autoImplicit false

def library (value : Json) : Checked LibraryDescription :=
  (object value).andThen fun fields =>
    LibraryDescription.mk
      <$> required "name" text fields
      <*> required "version" text fields
      <*> optional "category" .unknown (choice Category.ofLabel?) fields
      <*> optional "release_date" none (nullable day) fields
      <*> optional "comment" none (nullable text) fields

end LibraryDetection.Validation
