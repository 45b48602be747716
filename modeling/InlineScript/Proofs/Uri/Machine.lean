import InlineScript.Proofs.Uri.PathText

/-!
Machines of URIs as they are read: whatever spelling they had, no mark of another part of a URI is
left in them.
-/

namespace InlineScript.Uri

/-! ## Numbers and addresses -/

theorem lacks_of_forall_digit {text : List Char} (digits : ∀ char ∈ text, char.isDigit = true) :
    Lacks marks text := by
  intro char member isMark
  have digit := digits char member
  simp only [marks, List.mem_cons, List.not_mem_nil, or_false] at isMark
  rcases isMark with rfl | rfl | rfl | rfl | rfl | rfl <;> revert digit <;> decide

theorem lacks_toString (number : Nat) : Lacks marks (toString number).toList := by
  refine lacks_of_forall_digit fun char member => ?_
  rw [Nat.toString_eq_repr, Nat.toList_repr] at member
  exact Nat.isDigit_of_mem_toDigits (by decide) (by decide) member

theorem Lacks.intercalate {chars : List Char} {between : Char} (allowed : between ∉ chars)
    {parts : List (List Char)} (lacks : ∀ part ∈ parts, Lacks chars part) :
    Lacks chars ([between].intercalate parts) := by
  induction parts with
  | nil => exact Lacks.nil
  | cons part rest ih =>
      have inRest := ih fun other member => lacks other (List.mem_cons_of_mem _ member)
      have inPart := lacks part List.mem_cons_self
      cases rest with
      | nil => rwa [List.intercalate_singleton]
      | cons next others =>
          rw [List.intercalate_cons_cons]
          refine (inPart.append fun char member => ?_).append inRest
          rwa [List.mem_singleton.mp member]

theorem renderShort_lacks (value : Nat) : Lacks marks (Address.renderShort value) := by
  refine Lacks.intercalate (by decide) fun part member => ?_
  obtain ⟨number, _, rfl⟩ := List.mem_map.mp member
  exact lacks_toString number

theorem renderPiece_lacks (number : Nat) : Lacks marks (Address.renderPiece number) := by
  have all : ∀ value < 16, Address.hexDigit value ∉ marks := by decide
  intro char member
  obtain ⟨value, inDigits, rfl⟩ := List.mem_map.mp member
  refine all value ?_
  rcases List.mem_append.mp inDigits with high | low
  · have inside := (List.dropWhile_sublist _).subset high
    simp only [List.mem_cons, List.not_mem_nil, or_false] at inside
    omega
  · rw [List.mem_singleton.mp low]
    omega

/-- The marks that end a machine. -/
def ends : List Char := ['/', '?', '#', '@']

theorem renderPieces_lacks (numbers : List Nat) : Lacks ends (Address.renderPieces numbers) := by
  refine Lacks.intercalate (by decide) fun part member => ?_
  obtain ⟨number, _, rfl⟩ := List.mem_map.mp member
  exact (renderPiece_lacks number).fewer (by decide)

theorem renderLong_lacks (numbers : List Nat) : Lacks ends (Address.renderLong numbers) := by
  have inner : Lacks ends
      (if (Address.longestZeros numbers).2 < 2 then Address.renderPieces numbers
       else
        Address.renderPieces (numbers.take (Address.longestZeros numbers).1) ++ [':', ':']
          ++ Address.renderPieces
            (numbers.drop ((Address.longestZeros numbers).1 + (Address.longestZeros numbers).2))) := by
    split
    · exact renderPieces_lacks numbers
    · exact ((renderPieces_lacks _).append (by decide)).append (renderPieces_lacks _)
  exact ((by decide : Lacks ends ['[']).append inner).append (by decide)

/-! ## Names -/

theorem digit_not_mem_marks {value : Nat} (small : value < 36) : Punycode.digit value ∉ marks := by
  have all : ∀ value < 36, Punycode.digit value ∉ marks := by decide
  exact all value small

theorem digitsFrom_lacks (bias place value : Nat) :
    Lacks marks (Punycode.digitsFrom bias place value) := by
  have bounds := Punycode.threshold_bounds bias place
  fun_induction Punycode.digitsFrom bias place value with
  | case1 place value least below =>
      intro char member
      rw [List.mem_singleton.mp member]
      exact digit_not_mem_marks (by omega)
  | case2 place value least above ih =>
      intro char member
      rcases List.mem_cons.mp member with rfl | later
      · have := Nat.mod_lt (value - least) (show 0 < 36 - least by omega)
        exact digit_not_mem_marks (by omega)
      · exact ih (Punycode.threshold_bounds bias (place + 36)) char later

theorem lacks_pass {plain code : Nat} {state : Punycode.Writing} (lacks : Lacks marks state.digits)
    (char : Char) : Lacks marks (state.pass plain code char).digits := by
  unfold Punycode.Writing.pass
  split
  · exact lacks
  · split
    · exact lacks.append (digitsFrom_lacks _ _ _)
    · exact lacks

theorem lacks_passes {plain code : Nat} (name : List Char) {state : Punycode.Writing}
    (lacks : Lacks marks state.digits) :
    Lacks marks (name.foldl (Punycode.Writing.pass plain code) state).digits := by
  induction name generalizing state with
  | nil => exact lacks
  | cons char rest ih => exact ih (lacks_pass lacks char)

theorem lacks_writeCodes (name : List Char) (plain : Nat) {least : Nat} {codes : List Nat}
    {state : Punycode.Writing} (lacks : Lacks marks state.digits) :
    Lacks marks (Punycode.writeCodes name plain least codes state).digits := by
  induction codes generalizing least state with
  | nil => exact lacks
  | cons code rest ih =>
      refine ih ?_
      exact lacks_passes name lacks

theorem encode_lacks {name : List Char} (lacks : Lacks marks name) :
    Lacks marks (Punycode.encode name) := by
  refine ((lacks.of_subset List.filter_sublist.subset).append ?_).append ?_
  · split <;> decide
  · exact lacks_writeCodes _ _ Lacks.nil

theorem label_lacks {text : List Char} {label : DomainName.Label} (lacks : Lacks marks text)
    (read : DomainName.label? text = some label) : Lacks marks label.plain := by
  unfold DomainName.label? at read
  split at read
  · unfold DomainName.decoded? at read
    dsimp only at read
    split at read
    · contradiction
    · obtain ⟨shown, _, read⟩ := Option.bind_eq_some_iff.mp read
      split at read
      · cases read
        exact lacks
      · contradiction
  · split at read
    · cases read
      exact lacks
    · split at read
      · cases read
        exact Lacks.append (by decide) (encode_lacks lacks)
      · contradiction

theorem labels_lack {texts : List (List Char)} {labels : List DomainName.Label}
    (lacks : ∀ text ∈ texts, Lacks marks text)
    (read : texts.mapM DomainName.label? = some labels) :
    ∀ label ∈ labels, Lacks marks label.plain := by
  induction texts generalizing labels with
  | nil =>
      cases read
      exact fun label member => absurd member List.not_mem_nil
  | cons text rest ih =>
      rw [List.mapM_cons] at read
      obtain ⟨first, firstRead, read⟩ := Option.bind_eq_some_iff.mp read
      obtain ⟨others, othersRead, read⟩ := Option.bind_eq_some_iff.mp read
      cases read
      intro label member
      rcases List.mem_cons.mp member with rfl | later
      · exact label_lacks (lacks text List.mem_cons_self) firstRead
      · exact ih (fun other inRest => lacks other (List.mem_cons_of_mem _ inRest)) othersRead
          label later

theorem lacks_of_any_eq_false {forbidden : Char → Bool} {text : List Char}
    (all : marks.all forbidden = true) (none : text.any forbidden = false) :
    Lacks marks text := by
  intro char member isMark
  have absent := List.any_eq_false.mp none char member
  exact absent (List.all_eq_true.mp all char isMark)

/-- A name in plain letters has no mark. -/
theorem plain?_lacks {bytes : List UInt8} {name : List Char}
    (read : DomainName.plain? bytes = some name) : Lacks marks name := by
  unfold DomainName.plain? at read
  obtain ⟨taken, _, read⟩ := Option.bind_eq_some_iff.mp read
  dsimp only at read
  split at read
  · contradiction
  · rename_i allowed
    obtain ⟨labels, labelsRead, read⟩ := Option.bind_eq_some_iff.mp read
    split at read
    · contradiction
    · cases read
      have whole := lacks_of_any_eq_false (by decide) (Bool.not_eq_true _ ▸ allowed)
      have parts := labels_lack (fun text member => whole.of_subset fun char inside =>
        (Text.mem_of_mem_splitOnP member char inside).1) labelsRead
      refine Lacks.intercalate (by decide) fun part member => ?_
      obtain ⟨label, inLabels, rfl⟩ := List.mem_map.mp member
      exact parts label inLabels

/-! ## Machines -/

/-- A machine as it is written: nothing in it ends a machine, and it has colons in brackets only. -/
structure IsMachine (host : List Char) : Prop where
  lacks : Lacks ends host
  colons : host.head? = some '[' ∨ ':' ∉ host

theorem isMachine_of_lacks {host : List Char} (lacks : Lacks marks host) : IsMachine host where
  lacks := lacks.fewer (by decide)
  colons := .inr fun member => lacks ':' member (by decide)

theorem isMachine_bracketed {text host : List Char} (read : bracketed text = .ok host) :
    IsMachine host := by
  unfold bracketed at read
  split at read
  · split at read
    · cases read
      exact ⟨renderLong_lacks _, .inl rfl⟩
    · contradiction
  · contradiction

theorem isMachine_namedHost {text host : List Char} (read : namedHost text = .ok host) :
    IsMachine host := by
  unfold namedHost at read
  split at read
  · exact isMachine_bracketed read
  · split at read
    · contradiction
    · rename_i name named
      split at read
      · contradiction
      · split at read
        · split at read
          · cases read
            exact isMachine_of_lacks (renderShort_lacks _)
          · contradiction
        · cases read
          exact isMachine_of_lacks (plain?_lacks named)

theorem isMachine_writtenHost {text host : List Char} (read : writtenHost text = .ok host) :
    IsMachine host := by
  unfold writtenHost at read
  split at read
  · exact isMachine_bracketed read
  · split at read
    · contradiction
    · rename_i allowed
      cases read
      have lacks := lacks_of_any_eq_false (by decide) (Bool.not_eq_true _ ▸ allowed)
      exact isMachine_of_lacks (escape_lacks (List.Subset.refl _) fun char member _ =>
        lacks char member)

theorem readUser_lacks (text : List Char) : Lacks ends (readUser text) := by
  have part (text : List Char) : Lacks ends (escape plainInUser text) := by
    refine escape_lacks (by decide) fun char _ plain isEnd => ?_
    have all : ends.all (!plainInUser ·) = true := by decide
    have escaped := List.all_eq_true.mp all char isEnd
    simp [plain] at escaped
  unfold readUser
  split
  · refine (part _).append ?_
    split
    · exact Lacks.nil
    · exact (part _).cons (by decide)
  · exact part _

/-- An authority as it is written. -/
structure IsAuthority (authority : Authority) : Prop where
  user : Lacks ends authority.user
  machine : IsMachine authority.host

/-- A reading that goes on past a check has passed it. -/
theorem ok_of_unless {ε α : Type} {check : Prop} [Decidable check] {fault : ε}
    {next : Unit → Except ε α} {result : α}
    (read : (if check then (throw fault : Except ε Unit) >>= next else next ()) = .ok result) :
    next () = .ok result := by
  split at read
  · contradiction
  · exact read

theorem ok_of_bind {ε α β : Type} {first : Except ε α} {next : α → Except ε β} {result : β}
    (read : first >>= next = .ok result) : ∃ found, first = .ok found ∧ next found = .ok result := by
  cases first with
  | error fault => contradiction
  | ok found => exact ⟨found, rfl, read⟩

theorem isAuthority_readAuthority {kind : SchemeKind} {scheme text tail : List Char}
    {followed : Bool} {authority : Authority}
    (read : readAuthority kind scheme followed text = .ok (authority, tail)) :
    IsAuthority authority := by
  unfold readAuthority at read
  have named := ok_of_unless (ok_of_unless read)
  split at named
  all_goals
    obtain ⟨host, hostRead, rest⟩ := ok_of_bind named
    obtain ⟨⟨portNumber, after⟩, _, rest⟩ := ok_of_bind (ok_of_unless rest)
    have made := ok_of_unless rest
    cases made
    refine ⟨readUser_lacks _, ?_⟩
  · exact isMachine_namedHost hostRead
  · exact isMachine_writtenHost hostRead

end InlineScript.Uri
