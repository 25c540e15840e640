import MissionSim.Octets
import Mathlib.Tactic.Common

/-!
# Acceptance of a telecommand

The check the on-board software makes before it accepts a telecommand: the service
and the subtype are implemented, and a function call names its function.
-/

namespace TcAcceptance

open Octets

/-- The error codes of a refusal. -/
def errUnknownService : Nat := 0x0001
def errUnknownSubtype : Nat := 0x0002
def errInvalidLength : Nat := 0x0003

/-- `known_services` with their `valid_subtypes`. -/
def validSubtypes : List (Nat × List Nat) :=
  [(2, [1, 5, 6]),
   (3, [1, 2, 3, 4, 5, 6, 27, 31]),
   (5, [5, 6, 7, 8]),
   (6, [2, 5, 9]),
   (8, [1]),
   (9, [1, 2]),
   (11, [4, 7, 9, 11, 13, 17]),
   (12, [1, 2, 6, 7]),
   (15, [1, 2, 9, 11, 13]),
   (17, [1]),
   (18, [1, 2, 3, 4, 6]),
   (19, [1, 2, 4, 5, 8]),
   (20, [1, 3])]

/-- `_check_tc_acceptance(service, subtype, data)`: the error code of a refusal. -/
def checkTcAcceptance (service subtype : Nat) (data : Bytes) : Option Nat :=
  match validSubtypes.lookup service with
  | none => some errUnknownService
  | some subtypes =>
      if !subtypes.contains subtype then some errUnknownSubtype
      else if service = 8 ∧ subtype = 1 ∧ data.length < 1 then some errInvalidLength
      else none

end TcAcceptance
