import TransferProof.Proofs.Amount.Bounds
import TransferProof.Proofs.Checker.Verdict

/-!
# Input that cannot be used

A run of the checker comes as far as the verification, or it shows the help, or it says why the
command line cannot be used and ends with a code of its own. Four things make it crash instead, and
then it ends with the code of a failed proof: a setting that is no integer, an amount beyond all
bounds, a service address that names no host, and a heading that cannot be written. It crashes on
nothing else.
-/

namespace TransferProof

/-- Only the number of confirmations can be wrong in an environment. -/
theorem Settings.load_eq_error_iff {environment : Environment} {fault : IntegerFault} :
    load environment = .error fault ↔
      ∃ text, lookup environment confirmationsVariable = some text
        ∧ text.toInt = .error fault := by
  rw [load]
  cases found : lookup environment confirmationsVariable with
  | none => simp
  | some text =>
    cases read : text.toInt with
    | error other => simp [read, Except.map]
    | ok count => simp [read, Except.map]

theorem Rehearsal.ofRequest_eq_error_iff {request : Request} {clock : Seconds}
    {onResult onFault : List Reaction} {provider : Option ProxyAnswer} {agent : Text}
    {replies : List TimedReply} {fault : Authority.Fault} :
    ofRequest request clock onResult onFault provider agent replies = .error fault ↔
      Authority.host request.serviceAddress = .error fault := by
  rw [ofRequest, Client.forService, Locality.isLocal]
  cases found : Authority.host request.serviceAddress with
  | error other => simp [Except.map]
  | ok host => simp [Except.map]

theorem Rehearsal.exists_ofRequest_eq_ok_iff {request : Request} {clock : Seconds}
    {onResult onFault : List Reaction} {provider : Option ProxyAnswer} {agent : Text}
    {replies : List TimedReply} :
    (∃ r, ofRequest request clock onResult onFault provider agent replies = .ok r) ↔
      ∃ host, Authority.host request.serviceAddress = .ok host := by
  rw [ofRequest, Client.forService, Locality.isLocal]
  cases found : Authority.host request.serviceAddress with
  | error other => simp [Except.map]
  | ok host => simp [Except.map]

namespace Checker

open Text

variable {line : List Text} {around : Surroundings} {crash : Crash}

/-- What a run crashes on. In each case the command line asks for a check, and nothing that is
looked at earlier is wrong. -/
inductive Faulty (line : List Text) (around : Surroundings) : Crash → Prop where
  /-- The variable for the confirmations is set, but not to an integer. Whether the command line
  gives the number of confirmations does not matter. -/
  | settings {order : CommandLine.Order} {text : Text} {fault : IntegerFault}
      (read : CommandLine.read line = .ok (.check order))
      (set : Settings.lookup around.environment Settings.confirmationsVariable = some text)
      (refused : text.toInt = .error fault) : Faulty line around (.settings fault)
  | amount {order : CommandLine.Order} {settings : Settings}
      (read : CommandLine.read line = .ok (.check order))
      (loaded : Settings.load around.environment = .ok settings)
      (boundless : Amount.Boundless order.amount) : Faulty line around .amountTooLarge
  | service {order : CommandLine.Order} {settings : Settings} {request : Request}
      {fault : Authority.Fault} (read : CommandLine.read line = .ok (.check order))
      (loaded : Settings.load around.environment = .ok settings)
      (asked : requestOf order settings around = .ok request)
      (nowhere : Authority.host (orElse order.service settings.serviceAddress) = .error fault) :
      Faulty line around (.service fault)
  /-- Of the texts that the heading shows as they were given one cannot be written. -/
  | output {order : CommandLine.Order} {settings : Settings} {request : Request} {host : Text}
      {surrogates : Surrogates} (read : CommandLine.read line = .ok (.check order))
      (loaded : Settings.load around.environment = .ok settings)
      (asked : requestOf order settings around = .ok request)
      (somewhere : Authority.host (orElse order.service settings.serviceAddress) = .ok host)
      (unwritable : ¬ (Writable order.txHash ∧ Writable order.address
        ∧ Writable (orElse order.service settings.serviceAddress)))
      (stopped : (headingLines request).findSome? surrogates? = some surrogates) :
      Faulty line around (.output surrogates)

/-- A run that comes as far as the verification, or ends as it should before that. -/
inductive Orderly (line : List Text) (around : Surroundings) : Prop where
  | begins {request : Request} {r : Rehearsal} (begins : Begins line around request r)
  | misuse {misuse : CommandLine.Misuse} (ending : (run line around).ending = .misuse misuse)
      (code : (run line around).ending.exitCode = 2)
  | help (ending : (run line around).ending = .help)

section Values

variable {order : CommandLine.Order} {settings : Settings}

/-- The heading is printed in full unless one of three texts cannot be written. -/
theorem stopped_iff {request : Request} (asked : requestOf order settings around = .ok request) :
    (∃ surrogates, (headingLines request).findSome? surrogates? = some surrogates) ↔
      ¬ (Writable order.txHash ∧ Writable order.address
        ∧ Writable (orElse order.service settings.serviceAddress)) := by
  obtain ⟨hash, address, service, -⟩ := given_of_requestOf asked
  rw [← hash, ← address, ← service, ← writable_headingLines_iff, ← Option.ne_none_iff_exists',
    ne_eq, List.findSome?_eq_none_iff]
  simp only [surrogates?_eq_none_iff]

/-- An order whose values cannot be used is misuse, unless its amount is beyond all bounds. -/
theorem ending_of_requestOf {ending : Ending}
    (refused : requestOf order settings around = .error ending) :
    (ending = .crash .amountTooLarge ∧ Amount.Boundless order.amount)
      ∨ ∃ misuse, ending = .misuse misuse := by
  rw [requestOf] at refused
  split at refused
  case h_1 fault unread =>
    obtain rfl := Except.error.inj refused
    cases fault with
    | tooLarge => exact .inl ⟨rfl, (Amount.ofText_eq_tooLarge_iff _).mp unread⟩
    | notANumber text => exact .inr ⟨_, rfl⟩
    | notPositive => exact .inr ⟨_, rfl⟩
    | tooManyPlaces => exact .inr ⟨_, rfl⟩
  case h_2 amount read =>
    dsimp only at refused
    split at refused
    · exact .inr ⟨_, (Except.error.inj refused).symm⟩
    · cases refused

theorem requestOf_of_boundless (boundless : Amount.Boundless order.amount) :
    requestOf order settings around = .error (.crash .amountTooLarge) := by
  rw [requestOf, (Amount.ofText_eq_tooLarge_iff _).mpr boundless]
  rfl

end Values

section Runs

theorem run_of_order {order : CommandLine.Order}
    (read : CommandLine.read line = .ok (.check order)) :
    (run line around).ending = (check order around).ending
      ∧ (run line around).rehearsal = (check order around).rehearsal := by
  rw [run, read]
  exact ⟨rfl, rfl⟩

/-- Nothing is verified by a run that crashes. -/
theorem Faulty.crashes (faulty : Faulty line around crash) :
    (run line around).ending = .crash crash ∧ (run line around).rehearsal = none := by
  cases faulty with
  | settings read set refused =>
    have unloaded := Settings.load_eq_error_iff.mpr ⟨_, set, refused⟩
    rw [(run_of_order read).1, (run_of_order read).2, check, unloaded]
    exact ⟨rfl, rfl⟩
  | amount read loaded boundless =>
    rw [(run_of_order read).1, (run_of_order read).2, check, loaded]
    simp [requestOf_of_boundless boundless]
  | service read loaded asked nowhere =>
    rw [← (given_of_requestOf asked).2.2.1] at nowhere
    rw [(run_of_order read).1, (run_of_order read).2, check, loaded]
    simp [asked, Rehearsal.ofRequest_eq_error_iff.mpr nowhere]
  | @output order settings request host surrogates read loaded asked somewhere unwritable stopped =>
    rw [← (given_of_requestOf asked).2.2.1] at somewhere
    obtain ⟨r, made⟩ := Rehearsal.exists_ofRequest_eq_ok_iff.mpr ⟨host, somewhere⟩
    rw [← printLines_snd] at stopped
    rw [(run_of_order read).1, (run_of_order read).2, check, loaded]
    dsimp only
    rw [asked]
    dsimp only
    rw [made, ← Prod.eta (printLines (headingLines request)), stopped]
    exact ⟨rfl, rfl⟩

theorem Begins.ending_ne_crash {request : Request} {r : Rehearsal}
    (begins : Begins line around request r) : (run line around).ending ≠ .crash crash := by
  obtain ⟨level, same⟩ := begins.run_eq
  rw [same]
  dsimp only
  obtain waiting | interrupted | ⟨outcome, judged⟩ := ends_verifyWithin begins.faithful (patience r)
  · simp [waiting]
  · simp [interrupted.ending]
  · simp [judged.ending]

theorem Orderly.ending_ne_crash (orderly : Orderly line around) :
    (run line around).ending ≠ .crash crash := by
  cases orderly with
  | begins begins => exact begins.ending_ne_crash
  | misuse ending code => simp [ending]
  | help ending => simp [ending]

/-- A crash has the exit code of a failed proof. -/
theorem not_orderly_of_crash (ending : (run line around).ending = .crash crash) :
    (run line around).ending.exitCode = 1 ∧ ¬ Orderly line around := by
  constructor
  · rw [ending]
    rfl
  · exact fun orderly => orderly.ending_ne_crash ending

theorem Orderly.of_misuse {misuse : CommandLine.Misuse}
    (ending : (run line around).ending = .misuse misuse) : Orderly line around := by
  refine .misuse ending ?_
  rw [ending]
  rfl

/-- Of a check, too, nothing else can become. -/
theorem orderly_or_faulty_of_order {order : CommandLine.Order}
    (read : CommandLine.read line = .ok (.check order)) :
    Orderly line around ∨ ∃ crash, Faulty line around crash := by
  have ending : (run line around).ending = (check order around).ending := (run_of_order read).1
  have checked := checked_check order around
  generalize check order around = report at checked ending
  cases checked with
  | unset refused =>
    obtain ⟨text, set, refused⟩ := Settings.load_eq_error_iff.mp refused
    exact .inr ⟨_, .settings read set refused⟩
  | unasked loaded refused =>
    obtain ⟨-, boundless⟩ | ⟨misuse, rfl⟩ := ending_of_requestOf refused
    · exact .inr ⟨_, .amount read loaded boundless⟩
    · exact .inl (.of_misuse ending)
  | unmade loaded asked refused =>
    have nowhere := Rehearsal.ofRequest_eq_error_iff.mp refused
    rw [(given_of_requestOf asked).2.2.1] at nowhere
    exact .inr ⟨_, .service read loaded asked nowhere⟩
  | @unprinted settings request r surrogates loaded asked made stopped =>
    obtain ⟨host, somewhere⟩ := Rehearsal.exists_ofRequest_eq_ok_iff.mp ⟨r, made⟩
    rw [(given_of_requestOf asked).2.2.1] at somewhere
    rw [printLines_snd] at stopped
    have unwritable := (stopped_iff asked).mp ⟨surrogates, stopped⟩
    exact .inr ⟨_, .output read loaded asked somewhere unwritable stopped⟩
  | @verified settings request r loaded asked made writable =>
    exact .inl (.begins ⟨order, settings, read, loaded, asked, made, writable⟩)

theorem orderly_or_faulty (line : List Text) (around : Surroundings) :
    Orderly line around ∨ ∃ crash, Faulty line around crash := by
  cases read : CommandLine.read line with
  | error misuse =>
    have ending : (run line around).ending = .misuse misuse := by rw [run, read]
    exact .inl (.of_misuse ending)
  | ok wish =>
    cases wish with
    | help =>
      refine .inl (.help ?_)
      rw [run, read]
    | check order => exact orderly_or_faulty_of_order read

/-- A run is orderly just if it is not faulty in one of four ways. A faulty one crashes on just that
fault, with the exit code of a failed proof and before anything is verified. -/
theorem orderly_iff_not_faulty (line : List Text) (around : Surroundings) :
    (Orderly line around ↔ ∀ crash, ¬ Faulty line around crash)
      ∧ (∀ crash, (run line around).ending = .crash crash ↔ Faulty line around crash)
      ∧ ∀ crash, Faulty line around crash →
        (run line around).ending.exitCode = 1 ∧ (run line around).rehearsal = none := by
  have crashes {crash : Crash} (faulty : Faulty line around crash) := faulty.crashes
  refine ⟨?_, fun crash => ⟨?_, fun faulty => (crashes faulty).1⟩, ?_⟩
  · constructor
    · intro orderly crash faulty
      exact orderly.ending_ne_crash (crashes faulty).1
    · intro faultless
      obtain orderly | ⟨crash, faulty⟩ := orderly_or_faulty line around
      · exact orderly
      · exact absurd faulty (faultless crash)
  · intro ending
    obtain orderly | ⟨other, faulty⟩ := orderly_or_faulty line around
    · exact absurd ending orderly.ending_ne_crash
    · obtain rfl := Ending.crash.inj ((crashes faulty).1.symm.trans ending)
      exact faulty
  · intro crash faulty
    exact ⟨(not_orderly_of_crash (crashes faulty).1).1, (crashes faulty).2⟩

/-- A service that is down, and no settings. -/
theorem orderly_iff_not_faulty_outage : ∀ crash, ¬ Faulty outage.1 outage.2 crash := by
  have reaches : (run outage.1 outage.2).rehearsal ≠ none := by decide +kernel
  obtain ⟨last, shown⟩ := Option.ne_none_iff_exists'.mp reaches
  obtain ⟨request, r, begins⟩ := begins_of_rehearsal shown
  exact (orderly_iff_not_faulty outage.1 outage.2).1.mp (.begins begins)

def lineFor (amount service : Text) : List Text :=
  ["5c", "49", "d0", "--amount", amount, "--service", service, "--confirmations", "10"]

def aroundOf (confirmations : Text) : Surroundings :=
  { outage.2 with environment := [(Settings.confirmationsVariable, confirmations)] }

/-- An address that cannot be written, since a byte of it is none of UTF-8. -/
def unwritten : Text := ofString "node.example" ++ [0xDCFF]

/-- A setting that is not needed, an amount and two service addresses, of which one cannot be
written, each end with the code of a failed proof. -/
theorem unusable_input_crashes :
    ((run (lineFor "1" "node.example") (aroundOf "ten")).ending =
        .crash (.settings (.malformed "ten"))
      ∧ (run (lineFor "1e999999" "node.example") (aroundOf "10")).ending = .crash .amountTooLarge
      ∧ (run (lineFor "1" "[") (aroundOf "10")).ending = .crash (.service .unbalancedBrackets)
      ∧ (run (lineFor "1" unwritten) (aroundOf "10")).ending =
        .crash (.output { position := 32, first := 0xDCFF, more := 0 }))
      ∧ ∀ input ∈ [(lineFor "1" "node.example", aroundOf "ten"),
          (lineFor "1e999999" "node.example", aroundOf "10"), (lineFor "1" "[", aroundOf "10"),
          (lineFor "1" unwritten, aroundOf "10")],
        (run input.1 input.2).ending.exitCode = 1 ∧ ¬ Orderly input.1 input.2 := by
  have setting : (run (lineFor "1" "node.example") (aroundOf "ten")).ending =
      .crash (.settings (.malformed "ten")) := by decide +kernel
  have amount : (run (lineFor "1e999999" "node.example") (aroundOf "10")).ending =
      .crash .amountTooLarge := by decide +kernel
  have service : (run (lineFor "1" "[") (aroundOf "10")).ending =
      .crash (.service .unbalancedBrackets) := by decide +kernel
  have output : (run (lineFor "1" unwritten) (aroundOf "10")).ending =
      .crash (.output { position := 32, first := 0xDCFF, more := 0 }) := by decide +kernel
  refine ⟨⟨setting, amount, service, output⟩, ?_⟩
  simp only [List.forall_mem_cons]
  exact ⟨not_orderly_of_crash setting, not_orderly_of_crash amount, not_orderly_of_crash service,
    not_orderly_of_crash output, fun _ none => absurd none List.not_mem_nil⟩

end Runs

end Checker

end TransferProof
