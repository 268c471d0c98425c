import Blert.Colosseum.Processor

/-!
Colosseum processing in the challenge server.

The server that the processor of the Colosseum takes the place of keeps the same data between
waves. It looks for the handicap to upgrade by the id that is one level below, and raises it.
-/

namespace Blert.Colosseum.ChallengeServer

open Lifecycle

abbrev Handicap := Fin numHandicaps

structure ColosseumData where
  waves : List WaveData := []
  handicaps : List ℕ := []

structure CustomData where
  colosseumData : ColosseumData := {}
  handicapLevels : Handicap → ℕ := fun _ => 0

structure ColosseumProcessor extends CustomData where
  selectedHandicap : Option ℕ := none
  waveHandicapOptions : List ℕ := []

def ColosseumProcessor.new (customData : Option CustomData) : ColosseumProcessor :=
  { customData.getD {} with }

/-- A choice of a handicap among those offered. -/
structure HandicapChoice where
  handicap : Handicap
  options : List Handicap

def levelHandicap (levels : Handicap → ℕ) (handicap : Handicap) : ℕ :=
  handicap + levels handicap * handicapLevelIncrement

def processChallengeEvent (p : ColosseumProcessor) (event : HandicapChoice) :
    ColosseumProcessor :=
  let selected := levelHandicap p.handicapLevels event.handicap
  let handicaps := p.colosseumData.handicaps
  let below : ℤ := selected - handicapLevelIncrement
  { p with
    selectedHandicap := some selected
    waveHandicapOptions := event.options.map (levelHandicap p.handicapLevels)
    handicapLevels :=
      Function.update p.handicapLevels event.handicap (p.handicapLevels event.handicap + 1)
    colosseumData :=
      { p.colosseumData with
        handicaps :=
          match handicaps.findIdx? fun handicap : ℕ => (handicap : ℤ) = below with
          | some index => handicaps.modify index (· + handicapLevelIncrement)
          | none => handicaps ++ [(event.handicap : ℕ)] } }

/-- A wave: its stage, the ticks lost of it, and the choices among its events. -/
structure Wave where
  stage : Stage
  ticksLost : ℕ
  choices : List HandicapChoice

/-- Ends a wave, with the handicaps to store with the challenge. -/
def onStageFinished (p : ColosseumProcessor) (wave : Wave) : ColosseumProcessor × List ℕ :=
  let data : WaveData :=
    { stage := wave.stage
      ticksLost := wave.ticksLost
      handicap := p.selectedHandicap.getD 0
      options := p.waveHandicapOptions }
  ({ p with colosseumData :=
      { p.colosseumData with waves := p.colosseumData.waves ++ [data] } },
    repeatedHandicaps p.colosseumData.handicaps)

/-- Processes a wave from what was stored at the end of the one before. -/
def processWave (customData : Option CustomData) (wave : Wave) : CustomData × List ℕ :=
  let p := wave.choices.foldl processChallengeEvent (.new customData)
  let (p, handicaps) := onStageFinished p wave
  (p.toCustomData, handicaps)

def processWaves (waves : List Wave) : Option CustomData × List ℕ :=
  waves.foldl (fun stored wave =>
    let (customData, handicaps) := processWave stored.1 wave
    (some customData, handicaps)) (none, [])

end Blert.Colosseum.ChallengeServer
