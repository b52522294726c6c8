import Trampoline.Host
import Trampoline.Proofs.Graph

/-!
Canceling a token is a depth-first walk.

A cascade works through a list of pending tokens, but what it marks, and in which order, is what a
recursive walk over the graph visits: a token first, then its children in the order in which they
were pushed, each of them with all that is below it.  Such a walk visits what can be reached, whatever
the shape of the graph, since it stops only at tokens that have no children to visit any more.
-/

namespace Trampoline

variable {Memory : Type}

namespace Tokens

variable {tokens other : Tokens} {root token : Token} {reason : Option String} {index : Nat}
  {child : Token} {visited order : List Nat} {pending : List Token}

def Enters (tokens : Tokens) (visited : List Nat) (index : Nat) : Prop :=
  index < tokens.entries.size ∧ tokens.isCanceled (.tracked index) = false ∧ index ∉ visited

/-- A recursive walk over tokens in turn that has visited some before, with those that it visits in
order: it goes into a token that it enters, then into the children, the first pushed first, and goes
on with the other tokens after that. -/
inductive Walk (tokens : Tokens) : List Nat → List Token → List Nat → Prop
  | done (visited : List Nat) : tokens.Walk visited [] []
  | skip {visited : List Nat} {token : Token} {pending : List Token} {order : List Nat}
      (kept : ∀ index, token = .tracked index → ¬tokens.Enters visited index)
      (rest : tokens.Walk visited pending order) : tokens.Walk visited (token :: pending) order
  | enter {visited : List Nat} {index : Nat} {pending : List Token} {inside after : List Nat}
      (entered : tokens.Enters visited index)
      (below : tokens.Walk (visited ++ [index])
        (tokens.status (.tracked index)).children.reverse inside)
      (rest : tokens.Walk (visited ++ [index] ++ inside) pending after) :
      tokens.Walk visited (.tracked index :: pending) (index :: (inside ++ after))

namespace Walk

theorem unique {first second : List Nat} (walk : tokens.Walk visited pending first)
    (again : tokens.Walk visited pending second) : first = second := by
  induction walk generalizing second with
  | done => cases again; rfl
  | skip kept _ inductionHypothesis =>
      cases again with
      | skip _ rest => exact inductionHypothesis rest
      | enter entered => exact absurd entered (kept _ rfl)
  | enter entered _ _ belowHypothesis restHypothesis =>
      cases again with
      | skip kept _ => exact absurd entered (kept _ rfl)
      | enter _ below rest =>
          cases belowHypothesis below
          cases restHypothesis rest
          rfl

theorem enters (walk : tokens.Walk visited pending order) :
    ∀ index ∈ order, tokens.Enters visited index := by
  have sooner {visited more : List Nat} {index : Nat}
      (entered : tokens.Enters (visited ++ more) index) : tokens.Enters visited index :=
    ⟨entered.1, entered.2.1, fun member => entered.2.2 (List.mem_append_left _ member)⟩
  induction walk with
  | done => simp
  | skip _ _ inductionHypothesis => exact inductionHypothesis
  | enter entered _ _ belowHypothesis restHypothesis =>
      intro index member
      rcases List.mem_cons.1 member with rfl | later
      · exact entered
      · rcases List.mem_append.1 later with inside | after
        · exact sooner (belowHypothesis index inside)
        · exact sooner (sooner (restHypothesis index after))

theorem nodup (walk : tokens.Walk visited pending order) : order.Nodup := by
  induction walk with
  | done => exact .nil
  | skip _ _ inductionHypothesis => exact inductionHypothesis
  | enter entered below rest belowHypothesis restHypothesis =>
      refine List.nodup_cons.2 ⟨fun member => ?_, List.nodup_append.2
        ⟨belowHypothesis, restHypothesis, fun first inside second after same => ?_⟩⟩
      · rcases List.mem_append.1 member with inside | after
        · exact (below.enters _ inside).2.2 (by simp)
        · exact (rest.enters _ after).2.2 (by simp)
      · subst same
        exact (rest.enters _ after).2.2 (by simp [inside])

/-- Of the pending tokens, none that could be entered at first is left out. -/
theorem covers (walk : tokens.Walk visited pending order) :
    ∀ index, .tracked index ∈ pending → tokens.Enters visited index → index ∈ order := by
  induction walk with
  | done => simp
  | skip kept _ inductionHypothesis =>
      intro index member entered
      rcases List.mem_cons.1 member with here | later
      · exact absurd entered (kept index here.symm)
      · exact inductionHypothesis index later entered
  | @enter _ first _ inside _ _ _ _ _ restHypothesis =>
      intro index member entered
      by_cases before : index ∈ first :: inside
      · exact (List.mem_cons.1 before).elim (fun same => same ▸ .head _)
          fun inside => .tail _ (List.mem_append_left _ inside)
      · rcases List.mem_cons.1 member with here | later
        · cases here
          exact .head _
        · refine .tail _ (List.mem_append_right _ (restHypothesis index later ?_))
          exact ⟨entered.1, entered.2.1, by simpa [entered.2.2] using before⟩

/-- The children of a token that is visited are visited, unless they were before or cannot be. -/
theorem closed (walk : tokens.Walk visited pending order) :
    ∀ index ∈ order, ∀ child, tokens.Child (.tracked index) (.tracked child) →
      tokens.Enters visited child → child ∈ order := by
  have later (more : List Nat) {child : Nat} {visited : List Nat}
      (entered : tokens.Enters visited child) (outside : child ∉ more) :
      tokens.Enters (visited ++ more) child :=
    ⟨entered.1, entered.2.1, by simp [entered.2.2, outside]⟩
  induction walk with
  | done => simp
  | skip _ _ inductionHypothesis => exact inductionHypothesis
  | @enter _ first _ inside _ _ below _ belowHypothesis restHypothesis =>
      intro index member child link entered
      by_cases before : child ∈ first :: inside
      · exact (List.mem_cons.1 before).elim (fun same => same ▸ .head _)
          fun inside => .tail _ (List.mem_append_left _ inside)
      · have apart : child ∉ [first] ∧ child ∉ inside := by simpa using before
        have belowEntered := later [first] entered apart.1
        rcases List.mem_cons.1 member with rfl | others
        · exact absurd (below.covers child (List.mem_reverse.2 link) belowEntered) apart.2
        · rcases List.mem_append.1 others with inner | after
          · exact absurd (belowHypothesis index inner child link belowEntered) apart.2
          · exact .tail _ (List.mem_append_right _
              (restHypothesis index after child link (later inside belowEntered apart.2)))

/-- What is visited can be reached from one of the tokens at which the walk starts. -/
theorem reaches (walk : tokens.Walk visited pending order) :
    ∀ index ∈ order, ∃ start ∈ pending, tokens.Reaches start (.tracked index) := by
  induction walk with
  | done => simp
  | skip _ _ inductionHypothesis =>
      intro index member
      obtain ⟨start, found, reached⟩ := inductionHypothesis index member
      exact ⟨start, .tail _ found, reached⟩
  | enter _ _ _ belowHypothesis restHypothesis =>
      intro index member
      rcases List.mem_cons.1 member with rfl | others
      · exact ⟨_, .head _, .refl⟩
      · rcases List.mem_append.1 others with inside | after
        · obtain ⟨start, found, reached⟩ := belowHypothesis index inside
          exact ⟨_, .head _, .head (List.mem_reverse.1 found) reached⟩
        · obtain ⟨start, found, reached⟩ := restHypothesis index after
          exact ⟨start, .tail _ found, reached⟩

theorem split {before after : List Token} (walk : tokens.Walk visited (before ++ after) order) :
    ∃ first second, order = first ++ second ∧ tokens.Walk visited before first ∧
      tokens.Walk (visited ++ first) after second := by
  generalize both : before ++ after = pending at walk
  induction walk generalizing before with
  | done visited =>
      obtain ⟨rfl, rfl⟩ := List.append_eq_nil_iff.1 both
      exact ⟨[], [], rfl, .done _, .done _⟩
  | skip kept rest inductionHypothesis =>
      cases before with
      | nil =>
          subst both
          exact ⟨[], _, rfl, .done _, by simpa using rest.skip kept⟩
      | cons head before =>
          obtain ⟨rfl, rfl⟩ := List.cons.inj both
          obtain ⟨first, second, rfl, walk, rest⟩ := inductionHypothesis rfl
          exact ⟨first, second, rfl, .skip kept walk, rest⟩
  | @enter visited index _ inside _ entered below rest _ inductionHypothesis =>
      cases before with
      | nil =>
          subst both
          exact ⟨[], _, rfl, .done _, by simpa using Walk.enter entered below rest⟩
      | cons head before =>
          obtain ⟨rfl, rfl⟩ := List.cons.inj both
          obtain ⟨first, second, rfl, walk, rest⟩ := inductionHypothesis rfl
          refine ⟨index :: (inside ++ first), second, by simp, .enter entered below walk, ?_⟩
          simpa using rest

/-- A walk over a store is one over another store with the same children of what it visits, where
more has been visited before. -/
theorem carry (sooner : List Nat)
    (same : ∀ visited index, other.Enters visited index ↔ tokens.Enters (sooner ++ visited) index)
    (alike : ∀ index, other.Enters [] index →
      (tokens.status (.tracked index)).children = (other.status (.tracked index)).children)
    (walk : other.Walk visited pending order) :
    tokens.Walk (sooner ++ visited) pending order := by
  induction walk with
  | done => exact .done _
  | skip kept _ inductionHypothesis =>
      exact .skip (fun index found entered => kept index found ((same _ _).2 entered))
        inductionHypothesis
  | @enter visited index _ _ _ entered _ _ belowHypothesis restHypothesis =>
      rw [List.append_assoc, ← List.append_assoc] at restHypothesis
      refine .enter ((same _ _).1 entered) ?_ (by simpa using restHypothesis)
      rw [alike index ⟨entered.1, entered.2.1, by simp⟩]
      simpa using belowHypothesis

end Walk

section Mark

theorem size_mark (tokens : Tokens) (index : Nat) :
    (tokens.mark index).entries.size = tokens.entries.size :=
  tokens.size_update (.tracked index) _

theorem status_mark_self (known : index < tokens.entries.size) :
    (tokens.mark index).status (.tracked index) =
      { tokens.status (.tracked index) with canceled := true, children := [] } :=
  status_update_self known

theorem status_mark_of_ne (different : token ≠ .tracked index) :
    (tokens.mark index).status token = tokens.status token :=
  status_update_of_ne different

/-- Once a token is marked, a walk goes where it would go if it had visited that token. -/
theorem enters_mark (known : index < tokens.entries.size) (visited : List Nat) (position : Nat) :
    (tokens.mark index).Enters visited position ↔ tokens.Enters (index :: visited) position := by
  unfold Enters
  by_cases same : position = index
  · subst same
    simp [isCanceled, status_mark_self known]
  · have apart : Token.tracked position ≠ .tracked index := fun equal => same (Token.tracked.inj equal)
    simp [isCanceled, size_mark, status_mark_of_ne apart, same]

@[simp]
theorem size_marks (tokens : Tokens) (order : List Nat) :
    (order.foldl mark tokens).entries.size = tokens.entries.size := by
  induction order generalizing tokens with
  | nil => rfl
  | cons index order inductionHypothesis =>
      rw [List.foldl_cons, inductionHypothesis, size_mark]

theorem status_marks_of_not_mem (outside : ∀ index ∈ order, token ≠ .tracked index) :
    (order.foldl mark tokens).status token = tokens.status token := by
  induction order generalizing tokens with
  | nil => rfl
  | cons index order inductionHypothesis =>
      rw [List.foldl_cons, inductionHypothesis fun other member => outside other (.tail _ member),
        status_mark_of_ne (outside index (.head _))]

theorem status_marks_of_mem (known : index < tokens.entries.size) (member : index ∈ order) :
    (order.foldl mark tokens).status (.tracked index) =
      { tokens.status (.tracked index) with canceled := true, children := [] } := by
  induction order generalizing tokens with
  | nil => cases member
  | cons first order inductionHypothesis =>
      rw [List.foldl_cons]
      by_cases same : index = first
      · subst same
        by_cases again : index ∈ order
        · rw [inductionHypothesis (by rwa [size_mark]) again, status_mark_self known]
        · rw [status_marks_of_not_mem fun other found equal => again (by cases equal; exact found),
            status_mark_self known]
      · have apart : Token.tracked index ≠ .tracked first := fun equal =>
          same (Token.tracked.inj equal)
        rw [inductionHypothesis (by rwa [size_mark]) ((List.mem_cons.1 member).resolve_left same),
          status_mark_of_ne apart]

end Mark

/-- A cascade marks what a walk over the pending tokens visits, in the order of that walk. -/
theorem cascade_eq (tokens : Tokens) (canceled : List Nat) (pending : List Token) :
    ∃ order, tokens.Walk [] pending order ∧
      tokens.cascade canceled pending = (order.foldl mark tokens, order.reverse ++ canceled) := by
  have skipped {tokens : Tokens} {canceled : List Nat} {token : Token} {pending : List Token}
      (kept : ∀ index, token = .tracked index → ¬tokens.Enters [] index)
      (rest : ∃ order, tokens.Walk [] pending order ∧
        tokens.cascade canceled pending = (order.foldl mark tokens, order.reverse ++ canceled)) :
      ∃ order, tokens.Walk [] (token :: pending) order ∧
        tokens.cascade canceled pending = (order.foldl mark tokens, order.reverse ++ canceled) := by
    obtain ⟨order, walk, equality⟩ := rest
    exact ⟨order, .skip kept walk, equality⟩
  fun_induction cascade tokens canceled pending with
  | case1 tokens canceled => exact ⟨[], .done _, rfl⟩
  | case2 tokens canceled pending inductionHypothesis =>
      exact skipped (by simp) inductionHypothesis
  | case3 tokens canceled index pending found inductionHypothesis =>
      refine skipped (fun position equal entered => ?_) inductionHypothesis
      cases equal
      exact absurd entered.1 (Nat.not_lt.2 (Array.getElem?_eq_none_iff.1 found))
  | case4 tokens canceled index pending status found uncanceled inductionHypothesis =>
      rw [List.unattach_reverse, List.unattach_attach] at inductionHypothesis
      obtain ⟨known, rfl⟩ := Array.getElem?_eq_some_iff.1 found
      obtain ⟨order, marked, equality⟩ := inductionHypothesis
      have walk : tokens.Walk [index] (tokens.entries[index].children.reverse ++ pending) order := by
        refine marked.carry [index] (enters_mark known) fun position entered => ?_
        rw [status_mark_of_ne]
        rintro equal
        cases equal
        exact ((enters_mark known _ _).1 entered).2.2 (.head _)
      obtain ⟨inside, after, rfl, below, rest⟩ := walk.split
      have opened : tokens.status (.tracked index) = tokens.entries[index] := by
        simp [Tokens.status, known]
      refine ⟨index :: (inside ++ after), .enter ⟨known, ?_, by simp⟩ ?_ rest, ?_⟩
      · rw [isCanceled, opened]
        exact uncanceled
      · rw [opened]
        exact below
      · rw [equality]
        simp
  | case5 tokens canceled index pending status found canceledAlready inductionHypothesis =>
      refine skipped (fun position equal entered => canceledAlready ?_) inductionHypothesis
      cases equal
      have uncanceled := entered.2.1
      simpa [isCanceled, Tokens.status, found] using uncanceled

/-- What canceling a root makes of a store, and the tokens that it cancels, in order. -/
structure Cancels (tokens : Tokens) (root : Token) (reason : Option String) (after : Tokens)
    (order : List Nat) : Prop where
  created : after.entries.size = tokens.entries.size
  canceled (token : Token) : after.isCanceled token = true ↔ tokens.isCanceled token = true ∨
    root.isCancelable = true ∧ token.isCancelable = true ∧ tokens.Reaches root token
  /-- A token that is canceled now has no children left, and a reason only if it is the root. -/
  marked (token : Token) : tokens.isCanceled token = false → after.isCanceled token = true →
    after.status token =
      { canceled := true, reason := if token = root then reason else none, children := [] }
  /-- Any other token is as it was. -/
  kept (token : Token) : tokens.isCanceled token = after.isCanceled token →
    after.status token = tokens.status token
  walk : tokens.Walk [] [root] order
  once : order.Nodup
  latest (index : Nat) : index ∈ order ↔
    tokens.isCanceled (.tracked index) = false ∧ after.isCanceled (.tracked index) = true

theorem Sound.known_of_reaches (sound : tokens.Sound) (known : tokens.Known root)
    (reached : tokens.Reaches root token) : tokens.Known token := by
  cases reached with
  | refl => exact known
  | tail _ link => exact (sound _).known _ link

theorem isCancelable_of_reaches (reached : tokens.Reaches root (.tracked index)) :
    root.isCancelable = true := by
  cases root with
  | tracked => rfl
  | uncancelable =>
      rcases Relation.ReflTransGen.cases_head reached with same | ⟨child, link, _⟩
      · cases same
      · cases link

/-- A walk from a token visits all that can be reached from it and is not canceled. -/
theorem Walk.visits (walk : tokens.Walk [] [root] order) (sound : tokens.Sound)
    (known : tokens.Known root) (index : Nat) :
    index ∈ order ↔
      tokens.isCanceled (.tracked index) = false ∧ tokens.Reaches root (.tracked index) := by
  constructor
  · intro member
    obtain ⟨start, found, reached⟩ := walk.reaches index member
    exact ⟨(walk.enters index member).2.1, List.mem_singleton.1 found ▸ reached⟩
  · rintro ⟨uncanceled, reached⟩
    have bound := known_tracked.1 (sound.known_of_reaches known reached)
    generalize equality : Token.tracked index = token at reached
    induction reached generalizing index with
    | refl => exact walk.covers index (by simp [equality]) ⟨bound, uncanceled, by simp⟩
    | @tail parent child before link inductionHypothesis =>
        subst equality
        -- a token that has a child is one that the walk could enter
        cases parent with
        | uncancelable => cases link
        | tracked position =>
            cases canceled : tokens.isCanceled (.tracked position) with
            | true =>
                rw [Child, sound.childless canceled] at link
                cases link
            | false =>
                have visited := inductionHypothesis position canceled
                  (known_tracked.1 (sound.known_of_reaches known before)) rfl
                exact walk.closed position visited index link ⟨bound, uncanceled, by simp⟩

theorem status_update_reason (known : tokens.Known root) (index : Nat) :
    (tokens.update root fun status => { status with reason }).status (.tracked index) =
      { tokens.status (.tracked index) with
        reason := if .tracked index = root then reason
          else (tokens.status (.tracked index)).reason } := by
  by_cases same : Token.tracked index = root
  · subst same
    rw [status_update_self (known_tracked.1 known), if_pos rfl]
  · rw [status_update_of_ne same, if_neg same]

/-- Canceling a token that is not canceled marks what a walk from it visits, with the reason at the
token itself. -/
theorem cancel_eq (known : tokens.Known root) (uncanceled : tokens.isCanceled root = false)
    (reason : Option String) :
    ∃ order, tokens.Walk [] [root] order ∧ tokens.cancel root reason =
      (order.foldl mark (tokens.update root fun status => { status with reason }),
        order.reverse) := by
  obtain ⟨order, walk, equality⟩ :=
    cascade_eq (tokens.update root fun status => { status with reason }) [] [root]
  refine ⟨order, walk.carry [] (fun visited index => ?_) fun index _ => ?_, ?_⟩
  · simp [Enters, isCanceled, status_update_reason known]
  · rw [status_update_reason known]
  · rw [cancel, if_neg (by simp [uncanceled]), equality, List.append_nil]

section Sound

variable (sound : tokens.Sound) (known : tokens.Known root)
include sound known

/-- What is known of a token once a reason is given to the root and a walk from it is marked. -/
theorem Walk.status_marks (walk : tokens.Walk [] [root] order)
    (uncanceled : tokens.isCanceled root = false) (reason : Option String) (index : Nat) :
    (order.foldl mark (tokens.update root fun status => { status with reason })).status
        (.tracked index) =
      if index ∈ order then
        { canceled := true, reason := if .tracked index = root then reason else none }
      else tokens.status (.tracked index) := by
  split
  · rename_i member
    have entered := walk.enters index member
    rw [status_marks_of_mem (by simpa using entered.1) member, status_update_reason known,
      (sound _).unexplained entered.2.1]
  · rename_i outside
    have apart : Token.tracked index ≠ root := by
      rintro rfl
      exact outside ((walk.visits sound known index).2 ⟨uncanceled, .refl⟩)
    rw [status_marks_of_not_mem fun position member equal => outside (by cases equal; exact member),
      status_update_of_ne apart]

theorem Walk.isCanceled_marks (walk : tokens.Walk [] [root] order)
    (uncanceled : tokens.isCanceled root = false) (reason : Option String) (index : Nat) :
    (order.foldl mark (tokens.update root fun status => { status with reason })).isCanceled
        (.tracked index) = true ↔
      index ∈ order ∨ tokens.isCanceled (.tracked index) = true := by
  rw [isCanceled, walk.status_marks sound known uncanceled]
  by_cases member : index ∈ order
  · simp [member]
  · simp [member, isCanceled]

theorem Sound.cancels_again (canceled : tokens.isCanceled root = true) :
    tokens.Cancels root reason tokens [] := by
  have alone (token : Token) (reached : tokens.Reaches root token) : token = root := by
    rcases Relation.ReflTransGen.cases_head reached with same | ⟨child, link, _⟩
    · exact same.symm
    · rw [Child, sound.childless canceled] at link
      cases link
  refine ⟨rfl, fun token => ⟨.inl, ?_⟩, ?_, fun _ _ => rfl, ?_, .nil, by simp⟩
  · rintro (before | ⟨_, _, reached⟩)
    · exact before
    · rw [alone token reached, canceled]
  · intro token uncanceled now
    rw [now] at uncanceled
    cases uncanceled
  · refine .skip (fun index equal entered => ?_) (.done _)
    subst equal
    rw [entered.2.1] at canceled
    cases canceled

/-- Canceling a token cancels what can be reached from it, in the order of a walk. -/
theorem Sound.cancels (reason : Option String) :
    ∃ order, tokens.Cancels root reason (tokens.cancel root reason).1 order ∧
      (tokens.cancel root reason).2 = order.reverse := by
  cases uncanceled : tokens.isCanceled root with
  | true =>
      rw [show tokens.cancel root reason = (tokens, []) from if_pos uncanceled]
      exact ⟨[], sound.cancels_again known uncanceled, rfl⟩
  | false =>
      obtain ⟨order, walk, equality⟩ := cancel_eq known uncanceled reason
      have marks := walk.status_marks sound known uncanceled reason
      have canceled := walk.isCanceled_marks sound known uncanceled reason
      have visits := walk.visits sound known
      have created : (order.foldl mark (tokens.update root fun status =>
          { status with reason })).entries.size = tokens.entries.size := by simp
      rw [equality]
      generalize order.foldl mark _ = after at marks canceled created
      refine ⟨order, ⟨created, fun token => ?_, fun token => ?_, fun token => ?_, walk, walk.nodup,
        fun index => ?_⟩, rfl⟩
      · cases token with
        | uncancelable => simp [Token.isCancelable]
        | tracked index =>
            rw [canceled, visits, or_comm]
            cases before : tokens.isCanceled (.tracked index) with
            | true => simp
            | false => simpa [Token.isCancelable] using isCancelable_of_reaches
      · cases token with
        | uncancelable => simp
        | tracked index =>
            intro before now
            have member := ((canceled index).1 now).resolve_right (by simp [before])
            rw [marks, if_pos member]
      · cases token with
        | uncancelable => exact fun _ => rfl
        | tracked index =>
            intro same
            have outside : index ∉ order := fun member => by
              have before := ((visits index).1 member).1
              rw [same, (canceled index).2 (.inl member)] at before
              cases before
            rw [marks, if_neg outside]
      · rw [canceled]
        constructor
        · exact fun member => ⟨((visits index).1 member).1, .inl member⟩
        · rintro ⟨before, now⟩
          exact now.resolve_right (by simp [before])

end Sound

namespace Cancels

variable {after : Tokens} (cancels : tokens.Cancels root reason after order)
include cancels

theorem settled (canceled : tokens.isCanceled token = true) :
    after.status token = tokens.status token :=
  cancels.kept token (canceled.trans ((cancels.canceled token).2 (.inl canceled)).symm)

theorem sound (sound : tokens.Sound) : after.Sound := by
  intro token
  rw [cancels.created]
  by_cases same : tokens.isCanceled token = after.isCanceled token
  · rw [cancels.kept token same]
    exact sound token
  · have before : tokens.isCanceled token = false := by
      cases before : tokens.isCanceled token with
      | false => rfl
      | true => exact absurd (before.trans ((cancels.canceled token).2 (.inl before)).symm) same
    have now : after.isCanceled token = true := by
      simpa [before] using Ne.symm same
    rw [cancels.marked token before now]
    exact ⟨fun _ => rfl, by simp, by simp⟩

end Cancels

theorem Sound.cancel (sound : tokens.Sound) (known : tokens.Known root) (reason : Option String) :
    (tokens.cancel root reason).1.Sound := by
  obtain ⟨order, cancels, _⟩ := sound.cancels known reason
  exact cancels.sound sound

theorem Sound.push (sound : tokens.Sound) (parent : Token) (known : tokens.Known child) :
    (tokens.push parent child).1.Sound := by
  unfold Tokens.push
  split
  · exact sound.cancel known none
  · rename_i uncanceled
    refine sound.update ⟨fun canceled => absurd canceled uncanceled, (sound parent).unexplained, ?_⟩
    intro other member
    rcases List.mem_cons.1 member with rfl | older
    · exact known
    · exact (sound parent).known other older

/-- A store that calls have built out of an empty one, of tokens that had been created. -/
inductive Built : Tokens → Prop
  | empty : Built {}
  | create {tokens : Tokens} (built : tokens.Built) : Built tokens.create.2
  | push {tokens : Tokens} (parent : Token) {child : Token} (built : tokens.Built)
      (known : tokens.Known child) : Built (tokens.push parent child).1
  | pop {tokens : Tokens} (parent : Token) (built : tokens.Built) : Built (tokens.pop parent).2
  | cancel {tokens : Tokens} {token : Token} (reason : Option String) (built : tokens.Built)
      (known : tokens.Known token) : Built (tokens.cancel token reason).1

theorem Built.sound (built : tokens.Built) : tokens.Sound := by
  induction built with
  | empty => exact .empty
  | create _ sound => exact sound.create
  | push parent _ known sound => exact sound.push parent known
  | pop parent _ sound => exact sound.pop parent
  | cancel reason _ known sound => exact sound.cancel known reason

end Tokens

/-- Canceling a token cancels what can be reached from it along children and nothing else, once each
and with an event each, in the order of a recursive walk that visits a token before its children and
these in the order in which they were pushed. -/
theorem cancel_reaches_depth_first (host : Host Memory) (built : host.tokens.Built) (root : Token)
    (known : host.tokens.Known root) (reason : Option String) :
    ∃ order, host.tokens.Cancels root reason (host.cancel root reason).tokens order ∧
      (host.cancel root reason).journal =
        (order.map fun index => Entry.event (.cancellationRequested (index + 1))).reverse ++
          host.journal := by
  obtain ⟨order, cancels, latest⟩ := built.sound.cancels known reason
  refine ⟨order, cancels, ?_⟩
  simp only [Host.cancel, Host.emitCanceled, latest, List.map_reverse]

/-- Two tokens that are children of each other, the first of which is also a child of itself. -/
theorem cancel_reaches_depth_first_cycle :
    let pair := ({} : Tokens).create.2.create.2
    let cycle := ((pair.push (.tracked 0) (.tracked 1)).1.push (.tracked 1) (.tracked 0)).1
    let host : Host Unit := { memory := (), tokens := (cycle.push (.tracked 0) (.tracked 0)).1 }
    host.tokens.Built ∧ host.tokens.Known (.tracked 0) ∧
      ∃ order, host.tokens.Cancels (.tracked 0) (some "stop")
          (host.cancel (.tracked 0) (some "stop")).tokens order ∧
        (host.cancel (.tracked 0) (some "stop")).journal =
          (order.map fun index => Entry.event (.cancellationRequested (index + 1))).reverse ++
            host.journal := by
  intro pair cycle host
  have pairBuilt : pair.Built := .create (.create .empty)
  have built : host.tokens.Built :=
    .push _ (.push _ (.push _ pairBuilt (by decide)) (by decide)) (by decide)
  have known : host.tokens.Known (.tracked 0) := by decide
  exact ⟨built, known, cancel_reaches_depth_first host built (.tracked 0) known (some "stop")⟩

end Trampoline
