import MqttSnGateway.Datagrams
import MqttSnGateway.Store.Transactions

namespace MqttSnGateway

namespace Persistent

variable {p : Persistent}

theorem ready_iff : p.ready = true ↔ p.transactionStarted = true ∧ p.error = false ∧ p.notInClientRegistry = false := by
  unfold ready
  simp only [Bool.and_eq_true, Bool.not_eq_true', and_assoc]

theorem files_modified {f : ClientFiles → ClientFiles} : (p.modifyFiles f).files = f p.files := by
  unfold files modifyFiles Store.modifyFiles
  simp only [Function.update_self]

end Persistent

namespace Scenario

def fresh : Persistent := (Gateway.start (configuration [47]) .empty).persistent

def opened : Persistent :=
  { fresh with transactionStarted := true, entryClient := { EntryClient.zero with fileNumber := fileNumber 0 } }

end Scenario

end MqttSnGateway
