import Std.Data.ExtTreeMap
import Lwip.Std.Text

/-! `ConfigParser` of `utils/config_parser.hpp` and `utils/config_parser.cpp`. -/

namespace Lwip

open Std (ExtTreeMap)

structure StackConfig where
  interfaceName : Chars := "tun0".toList
  ipAddress : Chars := "192.168.1.100".toList
  netmask : Chars := "255.255.255.0".toList
  mtu : UInt16 := 1500
  deriving DecidableEq, Repr

namespace ConfigParser

/-- The key and the value that a line assigns, if it does. -/
def parseLine (line : Chars) : Option (Chars × Chars) :=
  if line = [] ∨ line.head? = some '#' then none else
  match line.findIdx? (· == '=') with
  | none => none
  | some pos =>
    let key := trim (line.take pos)
    let value := trim (line.drop (pos + 1))
    if key ≠ [] ∧ value ≠ [] then some (key, value) else none

/-- One turn of the loop over the lines of the file. -/
def readLine (values : ExtTreeMap Chars Chars) (line : Chars) : ExtTreeMap Chars Chars :=
  match parseLine line with
  | none => values
  | some (key, value) => values.insert key value

/-- The loop of `apply_config` over what is left of the map. An exception of `std::stoi` ends it
with what has been set by then. -/
def applyEntries (config : StackConfig) : List (Chars × Chars) → Bool × StackConfig
  | [] => (true, config)
  | (key, value) :: rest =>
    if key = "interface".toList then applyEntries { config with interfaceName := value } rest
    else if key = "ip_address".toList then applyEntries { config with ipAddress := value } rest
    else if key = "netmask".toList then applyEntries { config with netmask := value } rest
    else if key = "mtu".toList then
      match stoi value with
      | some n => applyEntries { config with mtu := UInt16.ofInt n } rest
      | none => (false, config)
    else applyEntries config rest

/-- The result, and `config` as the call leaves it. -/
def applyConfig (values : ExtTreeMap Chars Chars) (config : StackConfig) : Bool × StackConfig :=
  applyEntries config values.toList

/-- `file` is what the file holds, `none` when it cannot be opened. -/
def parseFile (file : Option Chars) (config : StackConfig) : Bool × StackConfig :=
  match file with
  | none => (false, config)
  | some text => applyConfig ((getlines text).foldl readLine ∅) config

end ConfigParser

end Lwip
