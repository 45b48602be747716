import InlineScript.Project.Layer

/-!
Following configurations to those they build on. There are eight steps at most, whether the
configurations come to an end, fail, or build on each other in a circle.
-/

namespace InlineScript.Project

variable {disk : Disk} {start path target next : Path} {layer other : Layer} {room index : Nat}
  {fault cause : ConfigFault} {result : Except ConfigFault (List Layer)}

/-! ## One configuration -/

/-- A configuration that cannot be read or is malformed, and what is said of it. -/
inductive Fails (disk : Disk) (path : Path) : ConfigFault → Prop where
  | unreadable {cause : ReadFault} (read : disk.read path = .error cause) :
      Fails disk path (.unreadable path cause)
  | malformed {text : String} (read : disk.read path = .ok text)
      (parsed : Written.read? text = none) : Fails disk path (.malformed path)

structure Loads (disk : Disk) (path : Path) (layer : Layer) : Prop where
  written : ∃ text, disk.read path = .ok text ∧ Written.read? text = some layer.written
  dir : layer.dir = Layer.dirOf path

theorem Layer.load_eq_error_iff : Layer.load disk path = .error fault ↔ Fails disk path fault := by
  rw [Layer.load]
  constructor
  · intro failed
    cases read : disk.read path with
    | error cause =>
        rw [read] at failed
        cases failed
        exact .unreadable read
    | ok text =>
        simp only [read] at failed
        cases parsed : Written.read? text with
        | none =>
            rw [parsed] at failed
            cases failed
            exact .malformed read parsed
        | some written => simp [parsed] at failed
  · intro fails
    cases fails with
    | unreadable read => rw [read]
    | malformed read parsed => simp only [read, parsed]

theorem Layer.load_eq_ok_iff : Layer.load disk path = .ok layer ↔ Loads disk path layer := by
  rw [Layer.load]
  constructor
  · intro loaded
    cases read : disk.read path with
    | error cause => simp [read] at loaded
    | ok text =>
        simp only [read] at loaded
        cases parsed : Written.read? text with
        | none => simp [parsed] at loaded
        | some written =>
            rw [parsed] at loaded
            cases loaded
            exact ⟨⟨text, read, parsed⟩, rfl⟩
  · intro loads
    obtain ⟨text, read, parsed⟩ := loads.written
    simp only [read, parsed, ← loads.dir]

theorem Loads.unique (loads : Loads disk path layer) (again : Loads disk path other) :
    layer = other := by
  rw [← Layer.load_eq_ok_iff] at loads again
  exact Except.ok.inj (loads.symm.trans again)

theorem Fails.unique (fails : Fails disk path fault) (again : Fails disk path cause) :
    fault = cause := by
  rw [← Layer.load_eq_error_iff] at fails again
  exact Except.error.inj (fails.symm.trans again)

theorem Loads.not_fails (loads : Loads disk path layer) : ¬ Fails disk path fault := by
  intro fails
  rw [← Layer.load_eq_ok_iff] at loads
  rw [← Layer.load_eq_error_iff, loads] at fails
  cases fails

/-! ## From one configuration to the next -/

/-- The configuration that so many steps lead to. -/
inductive Follows (disk : Disk) : Path → Nat → Path → Prop where
  | here {path : Path} : Follows disk path 0 path
  | step {path next target : Path} {layer : Layer} {index : Nat} (loads : Loads disk path layer)
      (builds : layer.base? disk = some next) (follows : Follows disk next index target) :
      Follows disk path (index + 1) target

theorem Loads.follows_succ_iff (loads : Loads disk path layer) :
    Follows disk path (index + 1) target ↔
      ∃ next, layer.base? disk = some next ∧ Follows disk next index target := by
  constructor
  · intro follows
    cases follows with
    | step again builds follows =>
        rw [loads.unique again]
        exact ⟨_, builds, follows⟩
  · intro ⟨next, builds, follows⟩
    exact .step loads builds follows

/-- None of the configurations that fewer steps lead to fails. -/
def NoneFails (disk : Disk) (path : Path) (steps : Nat) : Prop :=
  ∀ index < steps, ∀ target, Follows disk path index target → ∀ fault, ¬ Fails disk target fault

theorem NoneFails.not_fails (noneFails : NoneFails disk path (room + 1)) : ¬ Fails disk path fault :=
  noneFails 0 (Nat.succ_pos room) path .here fault

theorem Loads.noneFails_succ_iff (loads : Loads disk path layer)
    (builds : layer.base? disk = some next) :
    NoneFails disk path (room + 1) ↔ NoneFails disk next room := by
  constructor
  · intro noneFails index near target follows
    exact noneFails (index + 1) (Nat.succ_lt_succ near) target (.step loads builds follows)
  · intro noneFails index near target follows
    cases follows with
    | here => exact fun fault => loads.not_fails
    | step again builds' follows =>
        obtain rfl := loads.unique again
        obtain rfl : next = _ := Option.some.inj (builds.symm.trans builds')
        exact noneFails _ (Nat.lt_of_succ_lt_succ near) target follows

/-- The configurations from one to the first that builds on no file, base first. -/
structure Layered (disk : Disk) (path : Path) (layers : List Layer) : Prop where
  nonempty : 1 ≤ layers.length
  follows : ∀ index layer, layers.reverse[index]? = some layer →
    ∃ target, Follows disk path index target ∧ Loads disk target layer
  ends : ∀ index layer, layers.reverse[index]? = some layer →
    (layer.base? disk = none ↔ index + 1 = layers.length)

variable {layers : List Layer}

theorem Layered.exists_concat (layered : Layered disk path layers) :
    ∃ others layer, layers = others ++ [layer] ∧ Loads disk path layer ∧
      (layer.base? disk = none ↔ others = []) := by
  obtain ⟨others, layer, rfl⟩ : ∃ others layer, layers = others ++ [layer] := by
    have nonempty : layers ≠ [] := List.ne_nil_of_length_pos layered.nonempty
    exact ⟨_, _, (List.dropLast_concat_getLast nonempty).symm⟩
  have nearest : (others ++ [layer]).reverse[0]? = some layer := by simp
  obtain ⟨target, follows, loads⟩ := layered.follows 0 layer nearest
  cases follows
  refine ⟨others, layer, rfl, loads, ?_⟩
  rw [layered.ends 0 layer nearest, List.length_append, List.length_singleton,
    ← List.length_eq_zero_iff]
  omega

theorem Loads.layered_of_none (loads : Loads disk path layer) (ends : layer.base? disk = none) :
    Layered disk path [layer] := by
  have only : ∀ {index other}, [layer].reverse[index]? = some other → index = 0 ∧ layer = other := by
    intro index other found
    cases index with
    | zero => simpa using found
    | succ index => simp at found
  refine ⟨Nat.le_refl 1, ?_, ?_⟩
  · intro index other found
    obtain ⟨rfl, rfl⟩ := only found
    exact ⟨path, .here, loads⟩
  · intro index other found
    obtain ⟨rfl, rfl⟩ := only found
    simp [ends]

theorem Loads.layered_concat_iff (loads : Loads disk path layer)
    (builds : layer.base? disk = some next) :
    Layered disk path (layers ++ [layer]) ↔ Layered disk next layers := by
  have order : (layers ++ [layer]).reverse = layer :: layers.reverse := by simp
  have later : ∀ index, (layers ++ [layer]).reverse[index + 1]? = layers.reverse[index]? := by
    simp [order]
  constructor
  · intro layered
    have more : ¬ 0 + 1 = (layers ++ [layer]).length := by
      rw [← layered.ends 0 layer (by simp), builds]
      simp
    rw [List.length_append, List.length_singleton] at more
    refine ⟨by omega, ?_, ?_⟩
    · intro index other found
      obtain ⟨target, follows, loadsThere⟩ := layered.follows (index + 1) other (by rw [later, found])
      obtain ⟨_, again, follows⟩ := loads.follows_succ_iff.mp follows
      obtain rfl := Option.some.inj (builds.symm.trans again)
      exact ⟨target, follows, loadsThere⟩
    · intro index other found
      rw [layered.ends (index + 1) other (by rw [later, found]), List.length_append,
        List.length_singleton]
      omega
  · intro layered
    have nonempty := layered.nonempty
    refine ⟨by simp, ?_, ?_⟩
    · intro index other found
      cases index with
      | zero =>
          obtain rfl : layer = other := by simpa using found
          exact ⟨path, .here, loads⟩
      | succ index =>
          rw [later] at found
          obtain ⟨target, follows, loadsThere⟩ := layered.follows index other found
          exact ⟨target, .step loads builds follows, loadsThere⟩
    · intro index other found
      rw [List.length_append, List.length_singleton]
      cases index with
      | zero =>
          obtain rfl : layer = other := by simpa using found
          rw [builds]
          simp only [reduceCtorEq, false_iff]
          omega
      | succ index =>
          rw [later] at found
          rw [layered.ends index other found]
          omega

/-! ## Outcomes -/

/-- What comes of following configurations from `path` on, `room` of them at most. `start` is the one
to blame if they are more. -/
inductive Outcome (disk : Disk) (start : Path) (room : Nat) (path : Path) :
    Except ConfigFault (List Layer) → Prop where
  | fails {index : Nat} {target : Path} {fault : ConfigFault} (near : index < room)
      (follows : Follows disk path index target) (fails : Fails disk target fault)
      (first : NoneFails disk path index) : Outcome disk start room path (.error fault)
  | tooDeep {target : Path} (follows : Follows disk path room target)
      (noneFails : NoneFails disk path room) :
      Outcome disk start room path (.error (.tooDeep start 8))
  | whole {layers : List Layer} (layered : Layered disk path layers) (few : layers.length ≤ room) :
      Outcome disk start room path (.ok layers)

theorem outcome_zero_iff :
    Outcome disk start 0 path result ↔ result = .error (.tooDeep start chainLimit) := by
  constructor
  · intro outcome
    cases outcome with
    | fails near => omega
    | tooDeep => rfl
    | whole layered few =>
        have nonempty := layered.nonempty
        omega
  · intro exceeded
    rw [exceeded]
    exact .tooDeep .here (by intro index near; omega)

theorem Fails.outcome_iff (fails : Fails disk path fault) :
    Outcome disk start (room + 1) path result ↔ result = .error fault := by
  constructor
  · intro outcome
    cases outcome with
    | @fails index _ _ _ follows failsThere first =>
        cases index with
        | zero =>
            cases follows
            rw [fails.unique failsThere]
        | succ index => exact absurd fails first.not_fails
    | tooDeep _ noneFails => exact absurd fails noneFails.not_fails
    | whole layered =>
        obtain ⟨_, _, _, loads, _⟩ := layered.exists_concat
        exact absurd fails loads.not_fails
  · intro failed
    rw [failed]
    exact .fails (Nat.succ_pos room) .here fails (by intro index near; omega)

theorem Loads.outcome_iff_of_none (loads : Loads disk path layer) (ends : layer.base? disk = none) :
    Outcome disk start (room + 1) path result ↔ result = .ok [layer] := by
  have alone : ∀ index target, ¬ Follows disk path (index + 1) target := by
    intro index target follows
    obtain ⟨next, builds, -⟩ := loads.follows_succ_iff.mp follows
    simp [ends] at builds
  constructor
  · intro outcome
    cases outcome with
    | @fails index _ _ _ follows fails _ =>
        cases index with
        | zero =>
            cases follows
            exact absurd fails loads.not_fails
        | succ index => exact absurd follows (alone index _)
    | tooDeep follows => exact absurd follows (alone room _)
    | whole layered =>
        obtain ⟨others, nearest, rfl, again, last⟩ := layered.exists_concat
        obtain rfl := loads.unique again
        rw [last.mp ends, List.nil_append]
  · intro only
    rw [only]
    exact .whole (loads.layered_of_none ends) (by simp)

theorem Loads.outcome_iff_of_some (loads : Loads disk path layer)
    (builds : layer.base? disk = some next) :
    Outcome disk start (room + 1) path result ↔
      ∃ rest, Outcome disk start room next rest ∧ rest.map (· ++ [layer]) = result := by
  constructor
  · intro outcome
    cases outcome with
    | @fails index _ fault near follows fails first =>
        cases index with
        | zero =>
            cases follows
            exact absurd fails loads.not_fails
        | succ index =>
            obtain ⟨_, again, follows⟩ := loads.follows_succ_iff.mp follows
            obtain rfl := Option.some.inj (builds.symm.trans again)
            exact ⟨.error fault, .fails (Nat.lt_of_succ_lt_succ near) follows fails
              ((loads.noneFails_succ_iff builds).mp first), rfl⟩
    | tooDeep follows noneFails =>
        obtain ⟨_, again, follows⟩ := loads.follows_succ_iff.mp follows
        obtain rfl := Option.some.inj (builds.symm.trans again)
        exact ⟨_, .tooDeep follows ((loads.noneFails_succ_iff builds).mp noneFails), rfl⟩
    | whole layered few =>
        obtain ⟨others, nearest, rfl, again, -⟩ := layered.exists_concat
        obtain rfl := loads.unique again
        rw [List.length_append, List.length_singleton] at few
        exact ⟨.ok others, .whole ((loads.layered_concat_iff builds).mp layered) (by omega), rfl⟩
  · intro ⟨rest, outcome, joined⟩
    rw [← joined]
    cases outcome with
    | fails near follows fails first =>
        exact .fails (Nat.succ_lt_succ near) (.step loads builds follows) fails
          ((loads.noneFails_succ_iff builds).mpr first)
    | tooDeep follows noneFails =>
        exact .tooDeep (.step loads builds follows) ((loads.noneFails_succ_iff builds).mpr noneFails)
    | whole layered few =>
        exact .whole ((loads.layered_concat_iff builds).mpr layered) (by simpa using few)

theorem chainFrom_outcome_iff :
    (chainFrom disk start room path).map List.reverse = result ↔
      Outcome disk start room path result := by
  induction room generalizing path result with
  | zero =>
      rw [outcome_zero_iff, eq_comm]
      rfl
  | succ room ih =>
      rw [chainFrom]
      cases loaded : Layer.load disk path with
      | error fault =>
          rw [(Layer.load_eq_error_iff.mp loaded).outcome_iff, eq_comm]
          rfl
      | ok layer =>
          have loads := Layer.load_eq_ok_iff.mp loaded
          cases base : layer.base? disk with
          | none =>
              simp only [loads.outcome_iff_of_none base, base]
              exact eq_comm
          | some next =>
              simp only [loads.outcome_iff_of_some base, base, ← ih, exists_eq_left']
              cases chainFrom disk start room next with
              | error fault => rfl
              | ok rest => simp [Except.map]

/-- The first configuration that fails within eight is named. Where none fails, either there is a
ninth one, or all up to the last one are given, the base first. -/
theorem chain_outcome_iff (disk : Disk) (start : Path) (result : Except ConfigFault (List Layer)) :
    (chain disk start).map List.reverse = result ↔ Outcome disk start 8 start result :=
  chainFrom_outcome_iff

end InlineScript.Project
