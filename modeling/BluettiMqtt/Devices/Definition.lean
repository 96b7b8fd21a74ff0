import BluettiMqtt.Devices.Builders
import BluettiMqtt.Devices.Device

namespace BluettiMqtt

def BLUETTI_DEFINITIONS : List DeviceDefinition := [
  { type := "AC200M"
    packNumMax := 3
    pollingCommands := [.of 10 40, .of 70 21, .of 3001 61]
    packPollingCommands := some [.of 91 37]
    writableRanges := some [{ start := 3000, endExclusive := 3062 }]
    buildStruct := buildAc200mStruct },
  { type := "AC300"
    packNumMax := 4
    pollingCommands := [.of 10 40, .of 70 90, .of 160 46, .of 3001 61]
    packPollingCommands := some [.of 91 37]
    writableRanges := some [{ start := 3000, endExclusive := 3062 }]
    buildStruct := buildAc300Struct },
  { type := "AC500"
    packNumMax := 6
    pollingCommands := [.of 10 40, .of 70 90, .of 160 46, .of 3001 61]
    packPollingCommands := some [.of 91 37]
    writableRanges := some [{ start := 3000, endExclusive := 3062 }]
    buildStruct := buildAc500Struct },
  { type := "AC60"
    packNumMax := 1
    pollingCommands := [.of 100 62]
    buildStruct := buildAc60Struct },
  { type := "EB3A"
    packNumMax := 1
    pollingCommands := [.of 10 40, .of 70 21, .of 3034 1, .of 3060 7]
    writableRanges := some [{ start := 3000, endExclusive := 3067 }]
    buildStruct := buildEb3aStruct },
  { type := "EP500"
    packNumMax := 1
    pollingCommands := [.of 10 40, .of 70 21, .of 3001 61]
    packPollingCommands := some [.of 91 37]
    writableRanges := some [{ start := 3000, endExclusive := 3062 }]
    buildStruct := buildEp500Struct },
  { type := "EP500P"
    packNumMax := 1
    pollingCommands := [.of 10 40, .of 70 21, .of 3001 61]
    packPollingCommands := some [.of 91 37]
    writableRanges := some [{ start := 3000, endExclusive := 3062 }]
    buildStruct := buildEp500Struct },
  { type := "EP600"
    packNumMax := 1
    pollingCommands := [.of 100 62, .of 2022 2]
    buildStruct := buildEp600Struct }]

end BluettiMqtt
