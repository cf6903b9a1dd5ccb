import HttpTap.Yaml.Reading

/-!
# What is to blame for a document without a value

A document whose tree is well formed may still have no value.  Either a rule is broken, or some
place in the tree stands for nothing that there is, and then the fault of that place is the fault of
the document.

`Node.Blamed f n` says that the tree `n` has such a place for the fault `f`: a scalar, or a mapping
that stands for one.  Building follows the tree by six functions, one for each way in which nodes
stand together, and for each of them there is a lemma that finds the place (`blamed_of_build` and
its companions).  Joining two results keeps the fault of one of them, so nothing else has to be known
about the order in which parts are built.
-/

namespace HttpTap
namespace Yaml

/-! ## Faults of parts -/

namespace Built

variable {α β : Type} {a : Built α} {b : Built β} {f : Fault}

/-- The part fails with this fault. -/
def Fails (a : Built α) (f : Fault) : Prop := ∃ depth, a = .error ⟨depth, .unbuildable f⟩

theorem not_fails_ok {x : α} : ¬ Fails (.ok x : Built α) f := fun ⟨_, h⟩ => nomatch h

theorem not_fails_malformed {depth : Nat} : ¬ Fails (malformed depth : Built α) f := by
  rintro ⟨_, h⟩
  exact nomatch h

theorem Fails.of_map {g : α → β} (h : Fails (a.map g) f) : Fails a f := by
  obtain ⟨depth, failed⟩ := h
  cases a with
  | ok x => exact nomatch failed
  | error e => exact ⟨depth, congrArg Except.error (Except.error.inj failed)⟩

/-- Two parts together fail as one of them does. -/
theorem Fails.of_both (h : Fails (both a b) f) : Fails a f ∨ Fails b f := by
  obtain ⟨depth, failed⟩ := h
  unfold both at failed
  split at failed
  · exact nomatch failed
  · exact .inl ⟨depth, congrArg Except.error (Except.error.inj failed)⟩
  · exact .inr ⟨depth, congrArg Except.error (Except.error.inj failed)⟩
  · have same := Except.error.inj failed
    split at same
    · exact .inr ⟨depth, congrArg Except.error same⟩
    · exact .inl ⟨depth, congrArg Except.error same⟩

theorem Fails.of_cons {as : Built (List α)} (h : Fails (a.cons as) f) : Fails a f ∨ Fails as f :=
  h.of_map.of_both

theorem Fails.of_append {as bs : Built (List α)} (h : Fails (as.append bs) f) :
    Fails as f ∨ Fails bs f :=
  h.of_map.of_both

theorem Fails.of_guarded {depth : Nat} {ok : Bool} (h : Fails (guarded depth ok a) f) :
    Fails a f := by
  rcases h.of_map.of_both with check | part
  · cases ok with
    | true => exact absurd check not_fails_ok
    | false => exact absurd check not_fails_malformed
  · exact part

theorem Fails.of_key {depth : Nat} {k : Built Value} (h : Fails (key depth k) f) : Fails k f := by
  unfold key at h
  split at h
  · split at h
    · exact absurd h not_fails_ok
    · exact absurd h not_fails_malformed
  · split at h
    · exact h
    · exact absurd h not_fails_malformed

/-- A scalar fails as its text does. -/
theorem Fails.of_mapError {depth : Nat} {r : Except Defect α}
    (h : Fails (r.mapError fun d => Blemish.mk depth d) f) : r = .error (.unbuildable f) := by
  obtain ⟨_, failed⟩ := h
  cases r with
  | ok x => exact nomatch failed
  | error d => exact congrArg Except.error (congrArg Blemish.defect (Except.error.inj failed))

end Built

/-! ## Places in a tree -/

namespace Node

/-- What building says about a mapping that should stand for a moment. -/
def momentOfMapping : Fault := .misuse .type "expected string or bytes-like object"

/-- Some place in the tree stands for no value, with this fault. -/
inductive Blamed (f : Fault) : Node → Prop
  | scalar {tag : Tag} {text : String}
    (h : Meaning.ofScalar tag text = .error (.unbuildable f)) : Blamed f (.scalar tag text)
  /-- A mapping may stand for the scalar that one of its entries is. -/
  | default {tag : Tag} {es : List (Node × Node)} {text : String}
    (given : defaultText? es = some text)
    (h : Meaning.ofScalar tag text = .error (.unbuildable f)) : Blamed f (.mapping tag es)
  | moment {es : List (Node × Node)} (h : f = momentOfMapping) : Blamed f (.mapping .moment es)
  | item {tag : Tag} {ns : List Node} {n : Node} (mem : n ∈ ns) (h : Blamed f n) :
    Blamed f (.sequence tag ns)
  | key {tag : Tag} {es : List (Node × Node)} {k v : Node} (mem : (k, v) ∈ es)
    (h : Blamed f k) : Blamed f (.mapping tag es)
  | value {tag : Tag} {es : List (Node × Node)} {k v : Node} (mem : (k, v) ∈ es)
    (h : Blamed f v) : Blamed f (.mapping tag es)

variable {f : Fault} {depth : Nat}

/-- Some key or some value of the entries is to blame. -/
def EntryBlamed (f : Fault) (es : List (Node × Node)) : Prop :=
  ∃ k v, (k, v) ∈ es ∧ (Blamed f k ∨ Blamed f v)

theorem EntryBlamed.cons {es : List (Node × Node)} (h : EntryBlamed f es) (e : Node × Node) :
    EntryBlamed f (e :: es) := by
  obtain ⟨k, v, mem, blamed⟩ := h
  exact ⟨k, v, List.mem_cons_of_mem _ mem, blamed⟩

theorem EntryBlamed.mapping {es : List (Node × Node)} (h : EntryBlamed f es) (tag : Tag) :
    Blamed f (.mapping tag es) := by
  obtain ⟨k, v, mem, blamed | blamed⟩ := h
  · exact .key mem blamed
  · exact .value mem blamed

theorem blamed_of_scalarOfMapping {tag : Tag} {es : List (Node × Node)}
    (h : Built.Fails (scalarOfMapping depth tag es) f) : Blamed f (.mapping tag es) := by
  unfold scalarOfMapping at h
  split at h
  · exact absurd h Built.not_fails_malformed
  · rename_i text given
    split at h
    · rename_i moment
      obtain ⟨_, failed⟩ := h
      have same : Defect.unbuildable momentOfMapping = .unbuildable f :=
        congrArg Blemish.defect (Except.error.inj failed)
      obtain rfl := eq_of_beq moment
      exact .moment (Defect.unbuildable.inj same).symm
    · exact .default given h.of_mapError

mutual

/-- A tree that fails has a place that is to blame. -/
theorem blamed_of_build (n : Node) (depth : Nat) (h : (n.build depth).Fails f) : Blamed f n := by
  unfold build at h
  cases n with
  | loop isMapping => exact absurd h Built.not_fails_ok
  | scalar tag text =>
    dsimp only at h
    split at h
    all_goals first | exact absurd h Built.not_fails_malformed | exact .scalar h.of_mapError
  | sequence tag items =>
    dsimp only at h
    split at h
    · obtain ⟨n, mem, blamed⟩ := blamed_of_buildItems items (depth + 1) h.of_map
      exact .item mem blamed
    · obtain ⟨n, mem, blamed⟩ := blamed_of_buildPairs items (depth + 1) h.of_map
      exact .item mem blamed
    · obtain ⟨n, mem, blamed⟩ := blamed_of_buildPairs items (depth + 1) h.of_map
      exact .item mem blamed
    all_goals exact absurd h Built.not_fails_malformed
  | mapping tag entries =>
    have entry := blamed_of_buildEntries entries (depth + 1)
    dsimp only at h
    split at h
    · exact (entry h.of_map.of_guarded.of_append).mapping _
    · exact (entry h.of_map.of_guarded.of_append).mapping _
    · exact absurd h Built.not_fails_malformed
    · exact absurd h Built.not_fails_malformed
    · exact absurd h Built.not_fails_malformed
    · split at h
      · exact blamed_of_scalarOfMapping h
      · exact absurd h Built.not_fails_malformed

theorem blamed_of_buildItems (ns : List Node) (depth : Nat) (h : (buildItems depth ns).Fails f) :
    ∃ n ∈ ns, Blamed f n := by
  cases ns with
  | nil => exact absurd h Built.not_fails_ok
  | cons n ns =>
    rw [buildItems] at h
    rcases h.of_cons with first | rest
    · exact ⟨n, List.mem_cons_self, blamed_of_build n depth first⟩
    · obtain ⟨m, mem, blamed⟩ := blamed_of_buildItems ns depth rest
      exact ⟨m, List.mem_cons_of_mem _ mem, blamed⟩

theorem blamed_of_buildPairs (ns : List Node) (depth : Nat) (h : (buildPairs depth ns).Fails f) :
    ∃ n ∈ ns, Blamed f n := by
  unfold buildPairs at h
  split at h
  · exact absurd h Built.not_fails_ok
  · rename_i tag k v ns
    rcases h.of_cons with pair | rest
    · have entry : Blamed f (.mapping tag [(k, v)]) := by
        rcases pair.of_map.of_both with key | value
        · exact .key List.mem_cons_self (blamed_of_build k depth key)
        · exact .value List.mem_cons_self (blamed_of_build v depth value)
      exact ⟨_, List.mem_cons_self, entry⟩
    · obtain ⟨m, mem, blamed⟩ := blamed_of_buildPairs ns depth rest
      exact ⟨m, List.mem_cons_of_mem _ mem, blamed⟩
  · exact absurd h Built.not_fails_malformed

/-- The entries that are taken over and the own ones are built of the same keys and values. -/
theorem blamed_of_buildEntries (es : List (Node × Node)) (depth : Nat)
    (h : (buildEntries depth es).1.Fails f ∨ (buildEntries depth es).2.Fails f) :
    EntryBlamed f es := by
  match es with
  | [] =>
    rcases h with merged | own
    · exact absurd merged Built.not_fails_ok
    · exact absurd own Built.not_fails_ok
  | (k, v) :: es =>
    have rest := blamed_of_buildEntries es depth
    unfold buildEntries at h
    dsimp only at h
    split at h
    · rcases h with merged | own
      · rcases merged.of_append with taken | merged
        · exact ⟨k, v, List.mem_cons_self, .inr (blamed_of_takenOver v depth taken)⟩
        · exact (rest (.inl merged)).cons _
      · exact (rest (.inr own)).cons _
    · rcases h with merged | own
      · exact (rest (.inl merged)).cons _
      · rcases own.of_cons with entry | own
        · rcases entry.of_both with key | value
          · refine ⟨k, v, List.mem_cons_self, .inl ?_⟩
            have key := key.of_key
            split at key
            · exact absurd key Built.not_fails_ok
            · exact blamed_of_build k depth key
          · exact ⟨k, v, List.mem_cons_self, .inr (blamed_of_build v depth value)⟩
        · exact (rest (.inr own)).cons _

theorem blamed_of_takenOver (n : Node) (depth : Nat) (h : (takenOver depth n).Fails f) :
    Blamed f n := by
  cases n with
  | loop isMapping => exact absurd h Built.not_fails_ok
  | scalar tag text => exact absurd h Built.not_fails_ok
  | sequence tag items =>
    rw [takenOver] at h
    obtain ⟨n, mem, blamed⟩ := blamed_of_takenOverAll items depth h
    exact .item mem blamed
  | mapping tag entries =>
    rw [takenOver] at h
    exact (blamed_of_buildEntries entries depth h.of_append).mapping tag

theorem blamed_of_takenOverAll (ns : List Node) (depth : Nat)
    (h : (takenOverAll depth ns).Fails f) : ∃ n ∈ ns, Blamed f n := by
  match ns with
  | [] => exact absurd h Built.not_fails_ok
  | .mapping tag es :: ns =>
    rw [takenOverAll] at h
    rcases h.of_append with rest | first
    · obtain ⟨m, mem, blamed⟩ := blamed_of_takenOverAll ns depth rest
      exact ⟨m, List.mem_cons_of_mem _ mem, blamed⟩
    · exact ⟨_, List.mem_cons_self,
        (blamed_of_buildEntries es depth first.of_append).mapping tag⟩
  | .scalar tag text :: ns | .sequence tag items :: ns | .loop isMapping :: ns =>
    rw [takenOverAll] at h
    · obtain ⟨m, mem, blamed⟩ := blamed_of_takenOverAll ns depth h
      exact ⟨m, List.mem_cons_of_mem _ mem, blamed⟩
    · exact fun _ _ same => nomatch same

end

end Node

end Yaml
end HttpTap
