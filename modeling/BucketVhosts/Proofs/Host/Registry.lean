import Mathlib.Data.Finset.Card
import BucketVhosts.Host.Identifier
import BucketVhosts.Proofs.Data.Claims

/-!
# Registries of identifiers over many claims

A call that claims an identifier writes before it compares: it enters the domain as the owner where
there is none, and answers by comparing the domain with the owner. Nothing is taken back when they
differ. The main statement is about any number of such calls on a new registry, failed ones
included: every identifier keeps the domain of the first call that claimed it.
-/
namespace BucketVhosts

/-- A call that claims an identifier for a domain. -/
structure ClaimCall where
  identifier : String
  domain : String
  deriving DecidableEq, Repr

namespace IdentifierRegistry
variable {registry : IdentifierRegistry} {call : ClaimCall} {refusal : Refusal}

/-! ## One call -/

/-- The owner of the call's identifier, and the registry with that owner. An identifier without one
gets the domain of the call. -/
def enter (call : ClaimCall) (registry : IdentifierRegistry) : String × IdentifierRegistry :=
  match registry.owner? call.identifier with
  | some owner => (owner, registry)
  | none => (call.domain, registry.put call.identifier call.domain)

/-- What a call answers, and the registry that it leaves. -/
def answer (call : ClaimCall) (registry : IdentifierRegistry) :
    Except Refusal Unit × IdentifierRegistry :=
  let entered := registry.enter call
  (if entered.1 = call.domain then .ok ()
    else .error (.identifierCollision call.identifier [entered.1, call.domain]), entered.2)

/-- A call gives an owner to its own identifier, if that has none, and to no other one. -/
theorem owner?_enter (call : ClaimCall) (registry : IdentifierRegistry) (identifier : String) :
    (registry.enter call).2.owner? identifier =
      (registry.owner? identifier).or
        (if call.identifier = identifier then some call.domain else none) := by
  rw [enter]
  cases hfound : registry.owner? call.identifier with
  | some owner =>
      by_cases hsame : call.identifier = identifier
      · subst hsame
        simp [hfound]
      · simp [hsame]
  | none =>
      by_cases hsame : call.identifier = identifier
      · subst hsame
        rw [hfound, owner?]
        simp
      · simp only [owner?, Table.get?_put_of_ne hsame, if_neg hsame, Option.or_none]

theorem registry_answer (call : ClaimCall) (registry : IdentifierRegistry) :
    (registry.answer call).2 = (registry.enter call).2 := rfl

/-- **A call fails** when its identifier has another owner, and names both. -/
theorem answer_eq_error_iff :
    (registry.answer call).1 = .error refusal ↔
      ∃ first, registry.owner? call.identifier = some first ∧ first ≠ call.domain ∧
        refusal = .identifierCollision call.identifier [first, call.domain] := by
  rw [answer, enter]
  cases hfound : registry.owner? call.identifier with
  | none => simp
  | some first =>
      by_cases hsame : first = call.domain
      · simp [hsame]
      · simp [hsame, eq_comm]

/-- What a call writes does not survive its failure: an identifier that has another owner is not
entered. -/
theorem registry_of_answer_error (h : (registry.answer call).1 = .error refusal) :
    (registry.answer call).2 = registry := by
  obtain ⟨first, hfound, -, -⟩ := answer_eq_error_iff.mp h
  rw [registry_answer, enter, hfound]

/-- A claim gives the registry that the call leaves, if the call does not fail. -/
theorem claim_eq_answer (call : ClaimCall) (registry : IdentifierRegistry) :
    registry.claim call.identifier call.domain =
      (registry.answer call).1.map fun _ => (registry.answer call).2 := by
  rw [claim, Table.claim, answer, enter, owner?]
  cases Table.get? call.identifier registry with
  | none => simp [Except.map]
  | some first =>
      by_cases hsame : first = call.domain
      · simp [hsame, Except.map]
      · simp [hsame, Except.map]

/-! ## Many calls -/

/-- What calls answer, in order, and the registry that they leave. -/
structure Run where
  answers : List (Except Refusal Unit)
  registry : IdentifierRegistry

/-- Makes calls one after the other. A call is made whether or not those before it failed. -/
def runFrom (registry : IdentifierRegistry) : List ClaimCall → Run
  | [] => ⟨[], registry⟩
  | call :: rest =>
    let last := runFrom (registry.answer call).2 rest
    ⟨(registry.answer call).1 :: last.answers, last.registry⟩

/-- Makes calls on a new registry. -/
def run (calls : List ClaimCall) : Run :=
  runFrom .empty calls

/-- The domain of the first call that claims an identifier. -/
def firstClaimant? (identifier : String) (calls : List ClaimCall) : Option String :=
  (calls.find? fun call => call.identifier = identifier).map ClaimCall.domain

theorem runFrom_append (registry : IdentifierRegistry) (before behind : List ClaimCall) :
    runFrom registry (before ++ behind) =
      ⟨(runFrom registry before).answers ++
          (runFrom (runFrom registry before).registry behind).answers,
        (runFrom (runFrom registry before).registry behind).registry⟩ := by
  induction before generalizing registry with
  | nil => rfl
  | cons call rest ih => simp [runFrom, ih]

theorem length_answers_runFrom (registry : IdentifierRegistry) (calls : List ClaimCall) :
    (runFrom registry calls).answers.length = calls.length := by
  induction calls generalizing registry with
  | nil => rfl
  | cons call rest ih => simp [runFrom, ih]

/-- One more call is made on the registry that the others leave. -/
theorem registry_run_concat (calls : List ClaimCall) (call : ClaimCall) :
    (run (calls ++ [call])).registry = ((run calls).registry.answer call).2 := by
  simp only [run, runFrom_append]
  rfl

/-- The answer to a call is that on the registry which the calls before it leave. -/
theorem answers_run_at (before : List ClaimCall) (call : ClaimCall) (behind : List ClaimCall) :
    (run (before ++ call :: behind)).answers[before.length]? =
      some ((run before).registry.answer call).1 := by
  simp only [run, runFrom_append]
  rw [List.getElem?_append_right (Nat.le_of_eq (length_answers_runFrom _ _)),
    length_answers_runFrom, Nat.sub_self]
  rfl

theorem firstClaimant?_concat (identifier : String) (calls : List ClaimCall) (call : ClaimCall) :
    firstClaimant? identifier (calls ++ [call]) =
      (firstClaimant? identifier calls).or
        (if call.identifier = identifier then some call.domain else none) := by
  simp only [firstClaimant?, List.find?_append, Option.map_or]
  congr 1
  by_cases hsame : call.identifier = identifier <;> simp [hsame]

/-- **The first claimant owns an identifier**, however many calls follow. -/
theorem owner?_run (calls : List ClaimCall) (identifier : String) :
    (run calls).registry.owner? identifier = firstClaimant? identifier calls := by
  induction calls using List.reverseRecOn with
  | nil => rfl
  | append_singleton calls call ih =>
      rw [registry_run_concat, registry_answer, owner?_enter, ih, firstClaimant?_concat]

/-- The identifiers with an owner are those that some call claims. -/
theorem mem_keys_run_iff (calls : List ClaimCall) (identifier : String) :
    identifier ∈ (run calls).registry.keys ↔ identifier ∈ calls.map ClaimCall.identifier := by
  have howner : Table.get? identifier (run calls).registry = firstClaimant? identifier calls :=
    owner?_run calls identifier
  rw [← Table.isSome_get?, howner, firstClaimant?, Option.isSome_map, List.find?_isSome]
  simp

theorem size_run (calls : List ClaimCall) :
    (run calls).registry.size = (calls.map ClaimCall.identifier).toFinset.card := by
  have hkeys : (run calls).registry.keys.toFinset = (calls.map ClaimCall.identifier).toFinset := by
    ext identifier
    rw [List.mem_toFinset, List.mem_toFinset, mem_keys_run_iff]
  rw [← hkeys, Table.keys, List.toFinset_card_of_nodup (run calls).registry.distinct,
    List.length_map, Table.size]

/-- **A registry is written once.** After any calls on a new registry every identifier is owned by
the domain that claimed it first, and the registry has as many owners as there are identifiers in
the calls. A call fails exactly when the calls before it have another first claimant of its
identifier, names both domains, and leaves the registry as it was; each call answers and leaves what
a claim on the registry does. -/
theorem run_writes_once (calls : List ClaimCall) :
    (∀ identifier,
        (run calls).registry.owner? identifier = firstClaimant? identifier calls) ∧
      (run calls).registry.size = (calls.map ClaimCall.identifier).toFinset.card ∧
      (run calls).answers.length = calls.length ∧
      ∀ before call behind, calls = before ++ call :: behind →
        ∃ answer, (run calls).answers[before.length]? = some answer ∧
          (∀ refusal, answer = .error refusal ↔
            ∃ first, firstClaimant? call.identifier before = some first ∧ first ≠ call.domain ∧
              refusal = .identifierCollision call.identifier [first, call.domain]) ∧
          (∀ refusal, answer = .error refusal →
            (run (before ++ [call])).registry = (run before).registry) ∧
          (run before).registry.claim call.identifier call.domain =
            answer.map fun _ => (run (before ++ [call])).registry := by
  refine ⟨owner?_run calls, size_run calls, length_answers_runFrom _ calls, ?_⟩
  intro before call behind hcalls
  subst hcalls
  refine ⟨((run before).registry.answer call).1, answers_run_at before call behind, ?_, ?_, ?_⟩
  · intro refusal
    rw [answer_eq_error_iff, owner?_run]
  · intro refusal hfails
    rw [registry_run_concat, registry_of_answer_error hfails]
  · rw [registry_run_concat, claim_eq_answer]

/-- Three calls for one identifier, of which the second one comes from another domain. -/
def sharedCalls : List ClaimCall :=
  [⟨"a_b_com", "a-b.com"⟩, ⟨"a_b_com", "a.b.com"⟩, ⟨"a_b_com", "a-b.com"⟩]

/-- The second call fails and leaves the first claimant, whose next call goes through. -/
theorem run_shared_calls :
    (run sharedCalls).registry.owner? "a_b_com" = some "a-b.com" ∧
      (run sharedCalls).registry.size = 1 ∧
      (run sharedCalls).answers =
        [.ok (), .error (.identifierCollision "a_b_com" ["a-b.com", "a.b.com"]), .ok ()] ∧
      (run (sharedCalls.take 2)).registry = (run (sharedCalls.take 1)).registry := by
  obtain ⟨howner, hsize, -, hcall⟩ := run_writes_once sharedCalls
  have hanswers : (run sharedCalls).answers =
      [.ok (), .error (.identifierCollision "a_b_com" ["a-b.com", "a.b.com"]), .ok ()] := by
    decide
  obtain ⟨answer, hanswer, -, hkept, -⟩ :=
    hcall [⟨"a_b_com", "a-b.com"⟩] ⟨"a_b_com", "a.b.com"⟩ [⟨"a_b_com", "a-b.com"⟩] rfl
  rw [hanswers] at hanswer
  cases hanswer
  exact ⟨(howner "a_b_com").trans (by decide), hsize.trans (by decide), hanswers, hkept _ rfl⟩

end IdentifierRegistry
end BucketVhosts
