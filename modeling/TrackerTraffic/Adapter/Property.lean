/-!
# Properties

The kinds of data that requests give away.  The order of `Property.all` is the order
in which results are grouped.
-/

namespace TrackerTraffic

/-- A kind of data about a device, an app or a user. -/
inductive Property where
  | accelerometerX
  | accelerometerY
  | accelerometerZ
  | advertisingId
  | appId
  | appName
  | appVersion
  | architecture
  | batteryLevel
  | carrier
  | country
  | deviceName
  | diskFree
  | diskTotal
  | diskUsed
  | idfv
  | isCharging
  | isEmulator
  | isFirstLaunch
  | isInBackground
  | isInDarkMode
  | isInForeground
  | isRoaming
  | isRooted
  | language
  | latitude
  | localIp
  | longitude
  | macAddress
  | manufacturer
  | model
  | networkConnectionType
  | orientation
  | osName
  | osVersion
  | otherIdentifiers
  | publicIp
  | ramFree
  | ramTotal
  | ramUsed
  | referer
  | rotation
  | screenHeight
  | screenWidth
  | signalStrengthCellular
  | signalStrengthWifi
  | startTime
  | timezone
  | trackerSdkVersion
  | uptime
  | userAgent
  | userId
  | viewedPage
  | volume
deriving DecidableEq

namespace Property

/-- Every property, in order. -/
def all : List Property :=
  [.accelerometerX, .accelerometerY, .accelerometerZ, .advertisingId, .appId, .appName,
    .appVersion, .architecture, .batteryLevel, .carrier, .country, .deviceName, .diskFree,
    .diskTotal, .diskUsed, .idfv, .isCharging, .isEmulator, .isFirstLaunch, .isInBackground,
    .isInDarkMode, .isInForeground, .isRoaming, .isRooted, .language, .latitude, .localIp,
    .longitude, .macAddress, .manufacturer, .model, .networkConnectionType, .orientation,
    .osName, .osVersion, .otherIdentifiers, .publicIp, .ramFree, .ramTotal, .ramUsed, .referer,
    .rotation, .screenHeight, .screenWidth, .signalStrengthCellular, .signalStrengthWifi,
    .startTime, .timezone, .trackerSdkVersion, .uptime, .userAgent, .userId, .viewedPage, .volume]

def name : Property → String
  | accelerometerX => "accelerometerX"
  | accelerometerY => "accelerometerY"
  | accelerometerZ => "accelerometerZ"
  | advertisingId => "advertisingId"
  | appId => "appId"
  | appName => "appName"
  | appVersion => "appVersion"
  | architecture => "architecture"
  | batteryLevel => "batteryLevel"
  | carrier => "carrier"
  | country => "country"
  | deviceName => "deviceName"
  | diskFree => "diskFree"
  | diskTotal => "diskTotal"
  | diskUsed => "diskUsed"
  | idfv => "idfv"
  | isCharging => "isCharging"
  | isEmulator => "isEmulator"
  | isFirstLaunch => "isFirstLaunch"
  | isInBackground => "isInBackground"
  | isInDarkMode => "isInDarkMode"
  | isInForeground => "isInForeground"
  | isRoaming => "isRoaming"
  | isRooted => "isRooted"
  | language => "language"
  | latitude => "latitude"
  | localIp => "localIp"
  | longitude => "longitude"
  | macAddress => "macAddress"
  | manufacturer => "manufacturer"
  | model => "model"
  | networkConnectionType => "networkConnectionType"
  | orientation => "orientation"
  | osName => "osName"
  | osVersion => "osVersion"
  | otherIdentifiers => "otherIdentifiers"
  | publicIp => "publicIp"
  | ramFree => "ramFree"
  | ramTotal => "ramTotal"
  | ramUsed => "ramUsed"
  | referer => "referer"
  | rotation => "rotation"
  | screenHeight => "screenHeight"
  | screenWidth => "screenWidth"
  | signalStrengthCellular => "signalStrengthCellular"
  | signalStrengthWifi => "signalStrengthWifi"
  | startTime => "startTime"
  | timezone => "timezone"
  | trackerSdkVersion => "trackerSdkVersion"
  | uptime => "uptime"
  | userAgent => "userAgent"
  | userId => "userId"
  | viewedPage => "viewedPage"
  | volume => "volume"

def ofName? (text : String) : Option Property := all.find? (·.name == text)

/-- The text of the error that a name is none of a property. -/
def unknownMessage (text : String) : String := s!"unknown property `{text}`"

end Property

end TrackerTraffic
