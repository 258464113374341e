import FinderQuery.Proofs.Cli.Stages
import FinderQuery.Proofs.Earlier

namespace FinderQuery.Cli

theorem once_eq_ok_iff {α : Type} {option : ValueOption} {earlier found : Option α}
    {value : Parsed α} :
    once option earlier value = .ok found ↔
      earlier = none ∧ ∃ given, value = .ok given ∧ found = some given := by
  cases earlier with
  | some _ => simp [once, misuse]
  | none => cases value <;> simp [once, Functor.map, Except.map, eq_comm]

namespace Settings

namespace Turn

variable {scope : Scope} {front : List String} {effect : Settings → Parsed Settings}

end Turn

structure Barer (plain settings : Settings) : Prop where
  config : plain.config = settings.config
  format : plain.format = settings.format
  entity : plain.entity = settings.entity
  operands : plain.operands = settings.operands
  theme : settings.theme = none → plain.theme = none
  quiet : settings.quiet = false → plain.quiet = false

theorem Barer.refl (settings : Settings) : settings.Barer settings := by
  constructor <;> simp

theorem Barer.trans {first second third : Settings} (front : first.Barer second)
    (back : second.Barer third) : first.Barer third where
  config := front.config.trans back.config
  format := front.format.trans back.format
  entity := front.entity.trans back.entity
  operands := front.operands.trans back.operands
  theme := fun unset => front.theme (back.theme unset)
  quiet := fun loud => front.quiet (back.quiet loud)

variable {scope : Scope} {plain settings after : Settings}

theorem addOperand_eq_ok_iff {text : String} :
    settings.addOperand scope text = .ok after ↔
      ¬ scope.room.any (· ≤ settings.operands.length) ∧
      (scope = .command .compile → ¬ text.isEmpty) ∧
      after = { settings with operands := settings.operands ++ [text] } := by
  unfold addOperand asPath
  by_cases full : scope.room.any (· ≤ settings.operands.length)
  · simp [full, misuse]
  · rw [if_neg full]
    by_cases compiles : scope = .command .compile
    · rw [if_pos compiles]
      by_cases empty : text.isEmpty
      · rw [if_pos empty]
        exact ⟨nofun, fun given => absurd empty (given.2.1 compiles)⟩
      · rw [if_neg empty]
        exact ⟨fun same => ⟨full, fun _ => empty, (Except.ok.inj same).symm⟩,
          fun given => congrArg Except.ok given.2.2.symm⟩
    · rw [if_neg compiles]
      exact ⟨fun same => ⟨full, fun here => absurd here compiles, (Except.ok.inj same).symm⟩,
        fun given => congrArg Except.ok given.2.2.symm⟩

namespace Barer

theorem assign {option : ValueOption} {value : String} (barer : plain.Barer settings)
    (done : settings.assign option value = .ok after) :
    ∃ bare, plain.assign option value = .ok bare ∧ bare.Barer after := by
  obtain ⟨config, format, entity, operands, theme, quiet⟩ := barer
  unfold Settings.assign at done ⊢
  cases option with
  | config =>
    simp only [bind_eq_ok_iff, config] at done ⊢
    obtain ⟨given, found, same⟩ := done
    cases same
    exact ⟨_, ⟨given, found, rfl⟩, rfl, format, entity, operands, theme, quiet⟩
  | format =>
    simp only [bind_eq_ok_iff, format] at done ⊢
    obtain ⟨given, found, same⟩ := done
    cases same
    exact ⟨_, ⟨given, found, rfl⟩, config, rfl, entity, operands, theme, quiet⟩
  | entity =>
    simp only [bind_eq_ok_iff, entity] at done ⊢
    obtain ⟨given, found, same⟩ := done
    cases same
    exact ⟨_, ⟨given, found, rfl⟩, config, format, rfl, operands, theme, quiet⟩
  | theme =>
    simp only [bind_eq_ok_iff] at done ⊢
    obtain ⟨given, found, same⟩ := done
    cases same
    have unset := (once_eq_ok_iff.mp found).1
    rw [unset] at found
    refine ⟨_, ⟨given, by rw [theme unset]; exact found, rfl⟩, config, format, entity, operands, ?_,
      quiet⟩
    exact id

theorem addOperand {text : String} (barer : plain.Barer settings)
    (done : settings.addOperand scope text = .ok after) :
    ∃ bare, plain.addOperand scope text = .ok bare ∧ bare.Barer after := by
  obtain ⟨config, format, entity, operands, theme, quiet⟩ := barer
  rw [addOperand_eq_ok_iff] at done
  obtain ⟨fits, filled, rfl⟩ := done
  rw [← operands] at fits
  refine ⟨_, addOperand_eq_ok_iff.mpr ⟨fits, filled, rfl⟩, config, format, entity, ?_, theme, quiet⟩
  rw [operands]

theorem flag {name : String} (barer : plain.Barer settings)
    (done : settings.flag scope name = .ok after) :
    ∃ bare, plain.flag scope name = .ok bare ∧ bare.Barer after := by
  obtain ⟨config, format, entity, operands, theme, quiet⟩ := barer
  unfold Settings.flag at done ⊢
  by_cases isQuiet : name = "quiet"
  · rw [if_pos isQuiet] at done ⊢
    split at done
    · cases done
    next loud =>
      cases done
      rw [if_neg (by simp [quiet (by simpa using loud)])]
      exact ⟨_, rfl, config, format, entity, operands, theme, nofun⟩
  · rw [if_neg isQuiet] at done
    split at done
    · cases done
    · split at done <;> cases done

end Barer

end Settings

end FinderQuery.Cli
