import Mathlib.Data.List.Basic

/-! Readers that take values off the front of a list, in any monad in which a read
may fail. A reader reads an encoding if it takes exactly that off the front and
leaves whatever follows; readers in sequence read encodings in sequence. -/

namespace RobotMiddleware.Lib.Codec

section Sequences
variable {β α γ ι : Type} {m : Type → Type} [Monad m]

def Reads (reader : StateT (List β) m α) (data : List β) (value : α) : Prop :=
  ∀ rest, reader (data ++ rest) = pure (value, rest)

def many (reader : StateT (List β) m α) : Nat → StateT (List β) m (List α)
  | 0 => pure []
  | count + 1 => do
    let value ← reader
    let values ← many reader count
    pure (value :: values)

variable {reader : StateT (List β) m α} {data more : List β} {value : α}

theorem Reads.pure (value : α) : Reads (pure value : StateT (List β) m α) [] value := fun _ => rfl

variable [LawfulMonad m]

variable {next : α → StateT (List β) m γ} {result : γ}

theorem Reads.bind (first : Reads reader data value)
    (second : Reads (next value) more result) : Reads (reader >>= next) (data ++ more) result := by
  intro rest
  have taken := first (more ++ rest)
  calc (reader >>= next) (data ++ more ++ rest)
      = reader (data ++ (more ++ rest)) >>= fun pair => next pair.1 pair.2 := by rw [List.append_assoc]; rfl
    _ = next value (more ++ rest) := by rw [taken, pure_bind]
    _ = Pure.pure (result, rest) := second rest

/-- A last step that takes nothing off the input. -/
theorem Reads.done (first : Reads reader data value)
    (second : Reads (next value) [] result) : Reads (reader >>= next) data result := by
  have both := first.bind second
  rwa [List.append_nil] at both

theorem Reads.many {encode : ι → List β} {decoded : ι → α} {items : List ι}
    (each : ∀ item ∈ items, Reads reader (encode item) (decoded item)) :
    Reads (many reader items.length) (items.flatMap encode) (items.map decoded) := by
  induction items with
  | nil => exact Reads.pure []
  | cons item rest ih =>
    refine (each item (by simp)).bind ((ih fun other member => each other (by simp [member])).done ?_)
    exact Reads.pure _

/-- The reader takes all of the data. -/
def Ends (reader : StateT (List β) m α) (data : List β) (value : α) : Prop := reader data = Pure.pure (value, [])

theorem Reads.ends (first : Reads reader data value)
    (second : Ends (next value) more result) : Ends (reader >>= next) (data ++ more) result := by
  calc (reader >>= next) (data ++ more)
      = reader (data ++ more) >>= fun pair => next pair.1 pair.2 := rfl
    _ = next value more := by rw [first more, pure_bind]
    _ = Pure.pure (result, []) := second

theorem Reads.check (first : Reads reader [] value)
    (second : Ends (next value) more result) : Ends (reader >>= next) more result :=
  first.ends second

theorem Reads.last (first : Reads reader data value)
    (second : Ends (next value) [] result) : Ends (reader >>= next) data result := by
  have both := first.ends second
  rwa [List.append_nil] at both

end Sequences

section Prefixes
variable {β α γ : Type} {reader : StateT (List β) Option α}

/-- What follows the part that is read does not matter. -/
def Local (reader : StateT (List β) Option α) : Prop :=
  ∀ data value left rest, reader data = some (value, left) → reader (data ++ rest) = some (value, left ++ rest)

theorem Local.pure (value : α) : Local (pure value : StateT (List β) Option α) := by
  intro data result left rest read
  cases read
  rfl

theorem Local.bind {next : α → StateT (List β) Option γ} (first : Local reader) (second : ∀ value, Local (next value)) :
    Local (reader >>= next) := by
  intro data result left rest read
  obtain ⟨⟨value, middle⟩, done, read⟩ := Option.bind_eq_some_iff.mp read
  have longer : reader (data ++ rest) = some (value, middle ++ rest) := first data value middle rest done
  simp only [Bind.bind, StateT.bind, longer, Option.bind_some]
  exact second value middle result left rest read

theorem Local.map {next : α → γ} (first : Local reader) : Local (next <$> reader) := by
  rw [map_eq_pure_bind]
  exact first.bind fun value => .pure (next value)

/-- No proper beginning of what is read to its end is read to its end. -/
theorem Local.unread (once : Local reader) {part rest : List β} {value : α} (whole : reader (part ++ rest) = some (value, []))
    (more : rest ≠ []) (other : α) : reader part ≠ some (other, []) := by
  intro read
  have longer := once part other [] rest read
  rw [whole] at longer
  simp only [List.nil_append, Option.some.injEq, Prod.mk.injEq] at longer
  exact more longer.2.symm

end Prefixes

end RobotMiddleware.Lib.Codec
