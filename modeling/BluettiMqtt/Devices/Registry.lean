import BluettiMqtt.Devices.Definition

namespace BluettiMqtt

def BLUETTI_DEFINITION_MAP (type : String) : Option DeviceDefinition :=
  BLUETTI_DEFINITIONS.find? fun definition => definition.type = type

/-- The alternatives of `DEVICE_NAME_PATTERN`, in the order in which they are tried. -/
def DEVICE_NAME_MODELS : List String :=
  ["AC200M", "AC300", "AC500", "AC60", "EB3A", "EP500P", "EP500", "EP600"]

/-- What `DEVICE_NAME_PATTERN` captures: the first model whose rest is digits. -/
def matchDeviceName (name : String) : Option (String × String) :=
  DEVICE_NAME_MODELS.findSome? fun model =>
    if model.toList.isPrefixOf name.toList && isDigits (name.toList.drop model.toList.length) then
      some (model, String.ofList (name.toList.drop model.toList.length))
    else
      none

def isSupportedBluettiName (name : String) : Bool :=
  (matchDeviceName name).isSome

def createDeviceFromAdvertisement (address name : String) : Except Failure BluettiDevice :=
  match matchDeviceName name with
  | none => .error (.error s!"Unsupported Bluetti device name: {name}")
  | some (model, serialNumber) =>
    match BLUETTI_DEFINITION_MAP model with
    | none => .error (.error s!"No device factory implemented for {model}")
    | some definition =>
      .ok { address := address, serialNumber := serialNumber, definition := definition }

end BluettiMqtt
