import Bursar.Console.Client
import Bursar.Console.Output
import Bursar.Console.Provision

/-!
# Carrying out commands

A command that talks to the service makes one call, and prints what the answer
means. `Exchange.of` is both at once: the call, and how its answer is read.
-/

namespace Bursar.Console

/-- A call, and the text that its answer gives. -/
structure Exchange where
  call : Call
  finish : Except CallFailure Http.Response → Except ConsoleError String

namespace Exchange

/-- A call whose answer is read as a value and printed. -/
def reading {α : Type} (call : Except ConsoleError Call) (d : Json.Decoder α) (text : α → String) :
    Except ConsoleError Exchange :=
  call.map fun call => { call, finish := fun answer => (Client.readAnswer d answer).map text }

/-- The exchange that a command makes with a service; starting the service makes none. -/
def of (c : Client) (f : Format) : Command → Except ConsoleError Exchange
  | .start _ _ _ => .error (.invalidArgument "start does not talk to a remote API")
  | .health => reading c.healthCall HealthReport.record.decoder fun r => healthText r f
  | .listSubsidies enterprise page =>
    reading (c.get ["subsidies"] (Client.subsidyPairs enterprise page))
      (Page.record SubsidyView.record.decoder).decoder fun p => subsidiesText p f
  | .showSubsidy id =>
    reading (c.get ["subsidies", id] []) SubsidyView.record.decoder fun s => subsidyText s f
  | .createTransaction subsidy learner contentKey policy key =>
    reading
      (c.post ["transactions"] (some (Client.spendRequest subsidy learner contentKey policy key).toJson))
      TransactionView.record.decoder fun t => transactionText t f
  | .showTransaction id =>
    reading (c.get ["transactions", id] []) TransactionView.record.decoder fun t => transactionText t f
  | .listTransactions subsidy learner contentKey page =>
    reading (c.get ["transactions"] (Client.transactionPairs subsidy learner contentKey page))
      (Page.record TransactionView.record.decoder).decoder fun p => transactionsText p f
  | .reverseTransaction id =>
    reading (c.post ["transactions", id, "reverse"] none) TransactionView.record.decoder fun t =>
      transactionText t f
  | .showMetadata content enterprise =>
    reading (c.get ["content-metadata", content] [("enterprise_customer_uuid", enterprise)])
      ContentMetadata.record.decoder fun m => metadataText m f

/-- The exchange that arguments ask for. -/
def ofArguments (a : Arguments) : Except ConsoleError Exchange :=
  match Client.connect a.apiUrl a.token with
  | .error e => .error e
  | .ok client => of client a.format a.command

/-- The text that an exchange gives when its call is carried by a transport. -/
def run {σ : Type} (x : Exchange) (t : Transport σ) (s : σ) : Except ConsoleError String × σ :=
  let (outcome, s) := t.send x.call s
  (x.finish outcome, s)

end Exchange
end Bursar.Console
