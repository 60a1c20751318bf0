import LibraryDetection.Log.Entry

/-!
# Logged computations

A result or a failure together with the entries that were written on the way.  A failure
keeps the entries before it.
-/

namespace LibraryDetection

set_option autoImplicit false

structure Logged (ε α : Type) where
  log : List LogEntry
  result : Except ε α

namespace Logged

variable {ε α β : Type}

/-- What follows sees the value of the first computation, and its entries come after those
before it.  After a failure nothing follows, but the entries so far are kept. -/
def andThen (first : Logged ε α) (next : α → Logged ε β) : Logged ε β :=
  match first.result with
  | .error error => ⟨first.log, .error error⟩
  | .ok value => ⟨first.log ++ (next value).log, (next value).result⟩

instance : Monad (Logged ε) where
  pure value := ⟨[], .ok value⟩
  bind := andThen

def fail (error : ε) : Logged ε α := ⟨[], .error error⟩

def write (level : LogLevel) (source : LogSource) (text : String) : Logged ε Unit :=
  ⟨[⟨level, source, .message text⟩], .ok ()⟩

def writeLines (level : LogLevel) (source : LogSource) (lines : List String) :
    Logged ε Unit :=
  ⟨lines.map fun line => ⟨level, source, .message line⟩, .ok ()⟩

def writeElapsed (level : LogLevel) (source : LogSource) : Logged ε Unit :=
  ⟨[⟨level, source, .elapsed⟩], .ok ()⟩

def ofExcept {δ : Type} (tell : δ → ε) : Except δ α → Logged ε α
  | .ok value => pure value
  | .error error => fail (tell error)

theorem result_bind (first : Logged ε α) (next : α → Logged ε β) :
    (first >>= next).result = first.result.bind fun value => (next value).result := by
  change (first.andThen next).result = _
  unfold andThen
  cases first.result <;> rfl

theorem bind_eq_ok {first : Logged ε α} {next : α → Logged ε β} {value : β}
    (done : (first >>= next).result = .ok value) :
    ∃ middle, first.result = .ok middle ∧ (next middle).result = .ok value := by
  rw [result_bind] at done
  cases found : first.result with
  | error error => rw [found] at done; exact absurd done (by simp [Except.bind])
  | ok middle => rw [found] at done; exact ⟨middle, rfl, done⟩

end Logged

end LibraryDetection
