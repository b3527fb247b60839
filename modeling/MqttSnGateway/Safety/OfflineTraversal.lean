import MqttSnGateway.Safety.ServicedClients

namespace MqttSnGateway

open Persistent Store

namespace Store

variable {s : Store}

end Store

namespace Gateway

variable {g after : Gateway} {round : Round} {n k : Nat}

end Gateway

namespace Scenario

end Scenario

end MqttSnGateway
