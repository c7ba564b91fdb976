/-!
# Block types

The types of secrets blocks that have a name. Each number spells four letters.
-/

namespace Keyring

/-- A block type with a name. -/
inductive BlockType where
  | tls
  | ssh
  | wireguard
  | zigbeeNetworkKey
  | zigbeeSupportKey
  | opcUa
  deriving DecidableEq

namespace BlockType

/-- The number that stands for the type in a capture file. -/
def code : BlockType → Nat
  | .tls => 0x544c534b
  | .ssh => 0x5353484b
  | .wireguard => 0x57474b4c
  | .zigbeeNetworkKey => 0x5a4e574b
  | .zigbeeSupportKey => 0x5a415053
  | .opcUa => 0x55414b4c

/-- The type's name. -/
def name : BlockType → String
  | .tls => "TLS"
  | .ssh => "SSH"
  | .wireguard => "WIREGUARD"
  | .zigbeeNetworkKey => "ZIGBEE_NWK_KEY"
  | .zigbeeSupportKey => "ZIGBEE_APS_KEY"
  | .opcUa => "OPCUA"

/-- All types with a name. -/
def all : List BlockType := [.tls, .ssh, .wireguard, .zigbeeNetworkKey, .zigbeeSupportKey, .opcUa]

/-- The type with a name. -/
def ofName? (name : String) : Option BlockType := all.find? (fun type => type.name = name)

/-- A type as it is shown where its kind matters. -/
def quoted (type : BlockType) : String := s!"<SecretsType.{type.name}: {type.code}>"

end BlockType

end Keyring
